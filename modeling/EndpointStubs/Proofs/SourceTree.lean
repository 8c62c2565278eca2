import EndpointStubs.Proofs.DecodedFiles
import EndpointStubs.Proofs.JoinedTexts
import EndpointStubs.Proofs.RegistryGrouping
import EndpointStubs.Proofs.RenderSuccess
import Mathlib.Data.List.Lex

/-!
# Sources below a directory

What a search with the usual pattern finds below a directory of a tree of files:
the files at any depth whose names end in `.java` and that mention a controller
or are no text in the encoding, each once, in the order of their paths name by
name. The search fails only if there is a directory, or an entry with such a
name, whose path is too long to be looked up, or if the codec gives up on one of
the files for a reason of its own.
-/

namespace EndpointStubs

/-- The bytes of the code point can stand in a path. -/
def CodePoint.isPlain (c : CodePoint) : Bool :=
  c.bytes?.any (!·.contains 0)

theorem LooseText.bytes?_cons (c : CodePoint) (rest : LooseText) :
    LooseText.bytes? (c :: rest) =
      c.bytes?.bind fun bytes ↦ (LooseText.bytes? rest).map (bytes ++ ·) := by
  rw [LooseText.bytes?, LooseText.bytes?, List.mapM_cons]
  cases c.bytes? with
  | none => rfl
  | some bytes => cases rest.mapM CodePoint.bytes? <;> rfl

theorem LooseText.exists_bytes_iff {text : LooseText} :
    (∃ bytes, text.bytes? = some bytes ∧ bytes.contains 0 = false) ↔
      ∀ c ∈ text, c.isPlain = true := by
  induction text with
  | nil => exact ⟨fun _ _ hc ↦ absurd hc List.not_mem_nil, fun _ ↦ ⟨[], rfl, rfl⟩⟩
  | cons c rest ih =>
    rw [List.forall_mem_cons, ← ih, bytes?_cons, CodePoint.isPlain]
    cases c.bytes? with
    | none => simp
    | some bytes => cases LooseText.bytes? rest <;> simp

namespace Path

/-- The path is too long to be looked up. -/
def isTooLong (path : Path) : Bool :=
  pathFault? path.text = some .tooLong

/-- The path of what the names lead to from here. -/
def below (path : Path) (names : List LooseText) : Path :=
  ⟨path.root, path.components ++ names⟩

theorem below_nil (path : Path) : path.below [] = path := by
  rw [below, List.append_nil]

theorem child_below (path : Path) (names : List LooseText) (name : LooseText) :
    (path.below names).child name = path.below (names ++ [name]) := by
  rw [child, below, below, List.append_assoc]

theorem below_injective {path : Path} {names others : List LooseText}
    (h : path.below names = path.below others) : names = others :=
  List.append_cancel_left (congrArg components h)

theorem pathFault?_eq_none_iff {path : Path} :
    pathFault? path.text = none ↔
      (∀ c ∈ path.text, c.isPlain = true) ∧ path.isTooLong = false := by
  rw [← LooseText.exists_bytes_iff, isTooLong, pathFault?]
  cases path.text.bytes? with
  | none => simp
  | some bytes => by_cases h : (0 : UInt8) ∈ bytes <;> simp [h]

theorem mem_text_iff {path : Path} {p : CodePoint → Prop} (hdot : p '.') (hslash : p '/') :
    (∀ c ∈ path.text, p c) ↔
      (∀ c ∈ (path.root : LooseText), p c) ∧ ∀ name ∈ path.components, ∀ c ∈ name, p c := by
  have hjoined : (∀ c ∈ [(.char '/' : CodePoint)].intercalate path.components, p c) ↔
      ∀ name ∈ path.components, ∀ c ∈ name, p c :=
    ⟨fun h name hname c hc ↦ h c (mem_intercalate_of_mem hname hc),
      forall_mem_intercalate (List.forall_mem_singleton.2 hslash)⟩
  rw [text]
  split
  · rename_i hhere
    rw [Bool.and_eq_true, isRelative, String.isEmpty_iff, List.isEmpty_iff] at hhere
    rw [hhere.1, hhere.2]
    exact ⟨fun _ ↦ ⟨fun c hc ↦ absurd hc List.not_mem_nil, fun n hn ↦ absurd hn List.not_mem_nil⟩,
      fun _ ↦ List.forall_mem_singleton.2 hdot⟩
  · rw [List.forall_mem_append, hjoined]

theorem isPlain_text_below {path : Path} {names : List LooseText}
    (hpath : ∀ c ∈ path.text, c.isPlain = true)
    (hnames : ∀ name ∈ names, ∀ c ∈ name, c.isPlain = true) :
    ∀ c ∈ (path.below names).text, c.isPlain = true := by
  have hdot : CodePoint.isPlain '.' = true := by decide +kernel
  have hslash : CodePoint.isPlain '/' = true := by decide +kernel
  rw [mem_text_iff hdot hslash] at hpath ⊢
  exact ⟨hpath.1, List.forall_mem_append.2 ⟨hpath.2, hnames⟩⟩

end Path

/-- A name that leads to the entry that has it. -/
structure IsFileName (name : LooseText) : Prop where
  ne_nil : name ≠ []
  ne_here : name ≠ ("." : LooseText)
  ne_parent : name ≠ (".." : LooseText)
  isPlain : ∀ c ∈ name, c.isPlain = true
  notTooLong : isTooLong name = false
  asFound : name.asFound = name

instance (name : LooseText) : Decidable (IsFileName name) :=
  decidable_of_iff (name ≠ [] ∧ name ≠ ("." : LooseText) ∧ name ≠ (".." : LooseText) ∧
      (∀ c ∈ name, c.isPlain = true) ∧ isTooLong name = false ∧ name.asFound = name)
    ⟨fun ⟨h₁, h₂, h₃, h₄, h₅, h₆⟩ ↦ ⟨h₁, h₂, h₃, h₄, h₅, h₆⟩,
      fun ⟨h₁, h₂, h₃, h₄, h₅, h₆⟩ ↦ ⟨h₁, h₂, h₃, h₄, h₅, h₆⟩⟩

namespace FileSystem

/-- Every entry has names that lead to it, and stands in a directory. -/
def IsTree (fs : FileSystem) : Prop :=
  ∀ location ∈ fs.entries.keys,
    (∀ name ∈ location, IsFileName name) ∧ fs.entry? location.dropLast = some .directory

instance (fs : FileSystem) : Decidable fs.IsTree :=
  inferInstanceAs (Decidable (∀ location ∈ fs.entries.keys, _))

variable {fs : FileSystem} {location : Location} {names : List LooseText} {name : LooseText}

theorem isDirectoryAt_iff : fs.isDirectoryAt location = true ↔
    fs.entry? location = some .directory := by
  unfold isDirectoryAt
  split
  · rename_i h
    simp [h]
  · rename_i h
    exact ⟨nofun, fun hd ↦ absurd hd h⟩

theorem entry?_of_ne_nil (h : location ≠ []) : fs.entry? location = fs.entries.get? location := by
  unfold entry?
  exact if_neg (by simpa using h)

theorem IsTree.isFileName (h : fs.IsTree) (hentry : (fs.entry? location).isSome)
    (hname : name ∈ location) : IsFileName name := by
  rw [entry?_of_ne_nil (List.ne_nil_of_mem hname)] at hentry
  exact (h location ((Registry.mem_keys_iff _ _).2 hentry)).1 name hname

theorem IsTree.parent (h : fs.IsTree) (hentry : (fs.entry? (location ++ [name])).isSome) :
    fs.entry? location = some .directory := by
  rw [entry?_of_ne_nil (by simp)] at hentry
  simpa using (h (location ++ [name]) ((Registry.mem_keys_iff _ _).2 hentry)).2

theorem follow_append (fs : FileSystem) (location : Location) (names others : List LooseText) :
    fs.follow location (names ++ others) =
      fs.follow location names >>= fun reached ↦ fs.follow reached others := by
  induction names generalizing location with
  | nil => rfl
  | cons name names ih =>
    rw [List.cons_append, follow, follow]
    split
    · rfl
    · rfl
    · split
      · exact ih _
      · split
        · exact ih _
        · split
          · rfl
          · exact ih _

/-- The names of an entry below a directory lead to it. -/
theorem IsTree.follow_eq (h : fs.IsTree) (hentry : (fs.entry? (location ++ names)).isSome) :
    fs.follow location names = .ok (location ++ names) := by
  induction names using List.reverseRecOn with
  | nil => rw [List.append_nil, follow]
  | append_singleton names name ih =>
    rw [← List.append_assoc] at hentry
    have hparent := h.parent hentry
    have hname : IsFileName name := h.isFileName hentry (by simp)
    have hhere : ¬(name = ("." : LooseText) ∨ name = []) := by
      simp only [hname.ne_here, hname.ne_nil, or_self, not_false_eq_true]
    rw [follow_append, ih (by rw [hparent]; rfl), ok_bind, follow, hparent]
    simp only [if_neg hname.ne_parent, if_neg hhere, hname.notTooLong, hname.asFound, follow,
      List.append_assoc, Bool.false_eq_true, if_false]

theorem pathFault?_of_locate {root : Path} (hroot : fs.locate root = .ok location) :
    pathFault? root.text = none := by
  rw [locate] at hroot
  split at hroot
  · cases hroot
  · assumption

theorem IsTree.locate_below (h : fs.IsTree) {root : Path} (hroot : fs.locate root = .ok location)
    (hentry : (fs.entry? (location ++ names)).isSome)
    (hshort : (root.below names).isTooLong = false) :
    fs.locate (root.below names) = .ok (location ++ names) := by
  have hnone := pathFault?_of_locate hroot
  have hplain : ∀ c ∈ (root.below names).text, c.isPlain = true :=
    Path.isPlain_text_below (Path.pathFault?_eq_none_iff.1 hnone).1 fun name hname c hc ↦
      (h.isFileName hentry (List.mem_append_right _ hname)).isPlain c hc
  have hfollow : fs.follow (fs.start root) root.components = .ok location := by
    rw [locate, hnone] at hroot
    exact hroot
  rw [locate, Path.pathFault?_eq_none_iff.2 ⟨hplain, hshort⟩]
  change fs.follow (fs.start root) (root.components ++ names) = _
  rw [follow_append, hfollow, ok_bind, h.follow_eq hentry]

end FileSystem

theorem CodePoint.number_injective {c d : CodePoint} (h : c.number = d.number) : c = d := by
  cases c with
  | char c =>
    cases d with
    | char d => exact congrArg char (Char.toNat_inj.1 h)
    | surrogate n =>
      have hc : c.toNat < 0xD800 ∨ 0xDFFF < c.toNat ∧ c.toNat < 0x110000 := c.valid
      have hn := n.isLt
      simp only [number] at h
      omega
  | surrogate m =>
    cases d with
    | char d =>
      have hd : d.toNat < 0xD800 ∨ 0xDFFF < d.toNat ∧ d.toNat < 0x110000 := d.valid
      have hm := m.isLt
      simp only [number] at h
      omega
    | surrogate n =>
      simp only [number] at h
      exact congrArg surrogate (Fin.ext (by omega))

theorem LooseText.numbers_injective {s t : LooseText} (h : s.numbers = t.numbers) : s = t :=
  List.map_injective_iff.2 (fun _ _ ↦ CodePoint.number_injective) h

/-- Paths are ordered by their names, and names by the numbers of their code points. -/
theorem Path.namesLe_iff {names others : List LooseText} :
    namesLe names others = true ↔
      names.map LooseText.numbers ≤ others.map LooseText.numbers := by
  rw [← not_lt]
  induction names generalizing others with
  | nil => simp [namesLe]
  | cons name names ih =>
    cases others with
    | nil => simp [namesLe]
    | cons other others =>
      rw [namesLe, List.map_cons, List.map_cons, List.cons_lt_cons_iff, Bool.or_eq_true,
        Bool.and_eq_true, decide_eq_true_eq, beq_iff_eq, ih]
      rcases lt_trichotomy name.numbers other.numbers with hlt | heq | hgt
      · simp [hlt, hlt.ne', not_lt_of_gt hlt]
      · simp [LooseText.numbers_injective heq]
      · have hne : name ≠ other := by
          rintro rfl
          exact lt_irrefl _ hgt
        simp [hgt, hne, not_lt_of_gt hgt]

theorem Path.pairwise_mergeSort (paths : List Path) :
    (paths.mergeSort Path.le).Pairwise fun a b ↦ a.le b = true := by
  refine List.pairwise_mergeSort (fun a b c hab hbc ↦ ?_) (fun a b ↦ ?_) paths
  · exact namesLe_iff.2 (le_trans (namesLe_iff.1 hab) (namesLe_iff.1 hbc))
  · rw [Bool.or_eq_true, le, le, namesLe_iff, namesLe_iff]
    exact le_total _ _

theorem Path.components_eq_of_le {path other : Path} (h : path.le other = true)
    (h' : other.le path = true) : path.components = other.components :=
  List.map_injective_iff.2 (fun _ _ ↦ LooseText.numbers_injective)
    (le_antisymm (namesLe_iff.1 h) (namesLe_iff.1 h'))

namespace Wildcard

theorem covers_star_iff {pattern : List Wildcard} {name : LooseText} :
    covers (star :: pattern) name = true ↔ ∃ back, back <:+ name ∧ covers pattern back = true := by
  induction name with
  | nil => simp [covers_star_nil]
  | cons c name ih =>
    rw [covers_star_cons, Bool.or_eq_true, ih]
    simp only [List.suffix_cons_iff, or_and_right, exists_or, exists_eq_left]

theorem covers_map_char_iff {text name : LooseText} :
    covers (text.map char) name = true ↔ name = text := by
  induction text generalizing name with
  | nil => rw [List.map_nil, covers_nil, List.isEmpty_iff]
  | cons c text ih =>
    cases name with
    | nil => simp [covers_cons_nil]
    | cons d name =>
      have hchar : char c ≠ star := by simp
      rw [List.map_cons, covers_cons hchar, Bool.and_eq_true, ih, admits, beq_iff_eq,
        List.cons.injEq, eq_comm]

end Wildcard

/-- The last of the names ends in `.java`. -/
def isJavaName (names : List LooseText) : Bool :=
  names.getLast?.any (".java" : LooseText).isSuffixOf

/-- What the usual pattern says of the last name. -/
def javaWildcard : List Wildcard :=
  .star :: (".java" : LooseText).map .char

theorem PathPattern.parse_usual :
    PathPattern.parse "**/*.java" = .ok ⟨[.anyDepth, .wild javaWildcard], false⟩ := by
  decide +kernel

theorem covers_javaWildcard (names : List LooseText) (name : LooseText) :
    Wildcard.covers javaWildcard name = isJavaName (names ++ [name]) := by
  rw [isJavaName, List.getLast?_concat, Option.any_some, Bool.eq_iff_iff,
    List.isSuffixOf_iff_suffix, javaWildcard, Wildcard.covers_star_iff]
  simp only [Wildcard.covers_map_char_iff, exists_eq_right]

/-! ## Searching -/

namespace FileSystem

variable {fs : FileSystem} {root : Path} {location : Location} {names : List LooseText}
  {name : LooseText}

theorem mem_directoriesBelow : names ∈ fs.directoriesBelow location ↔
    names ≠ [] ∧ fs.entry? (location ++ names) = some .directory := by
  have hentry (h : names ≠ []) : fs.entry? (location ++ names) = some .directory ↔
      (location ++ names, .directory) ∈ fs.entries.entries := by
    rw [entry?_of_ne_nil (by simp [h]), Registry.get?_eq_some_iff]
  rw [directoriesBelow, List.mem_filterMap]
  constructor
  · rintro ⟨⟨l, entry⟩, hmem, h⟩
    cases entry with
    | file content => cases h
    | directory =>
      simp only [Option.ite_none_right_eq_some, Option.some.injEq] at h
      obtain ⟨⟨hstarts, hne⟩, rfl⟩ := h
      obtain ⟨others, rfl⟩ := List.isPrefixOf_iff_prefix.1 hstarts
      rw [List.drop_left] at hentry ⊢
      have hothers : others ≠ [] := by
        rintro rfl
        exact hne (List.append_nil _)
      exact ⟨hothers, (hentry hothers).2 hmem⟩
  · rintro ⟨hne, h⟩
    refine ⟨(location ++ names, .directory), (hentry hne).1 h, ?_⟩
    simp [List.isPrefixOf_iff_prefix, hne]

theorem mem_children {entry : Entry} : (name, entry) ∈ fs.children location ↔
    fs.entry? (location ++ [name]) = some entry := by
  rw [entry?_of_ne_nil (by simp), Registry.get?_eq_some_iff, children, List.mem_filterMap]
  constructor
  · rintro ⟨⟨l, other⟩, hmem, h⟩
    simp only at h
    split at h
    · rename_i last hlast
      simp only [Option.ite_none_right_eq_some, Option.some.injEq, Prod.mk.injEq] at h
      obtain ⟨rfl, rfl, rfl⟩ := h
      rwa [List.dropLast_append_getLast? _ hlast]
    · cases h
  · intro h
    exact ⟨(location ++ [name], entry), h, by simp⟩

/-- No directory below the root, and no entry whose name ends in `.java`, has a path that is too
long to be looked up. -/
def IsWithinReach (fs : FileSystem) (root : Path) (location : Location) : Prop :=
  ∀ names entry, fs.entry? (location ++ names) = some entry →
    entry = .directory ∨ isJavaName names = true → (root.below names).isTooLong = false

/-- The directories at and below the root. -/
def directories (fs : FileSystem) (root : Path) (location : Location) : List Reached :=
  (root, location) ::
    (fs.directoriesBelow location).map fun names ↦ (root.below names, location ++ names)

/-- The entries of a directory whose names the pattern covers. -/
def coveredChildren (fs : FileSystem) (pattern : List Wildcard) (place : Reached) : List Reached :=
  (fs.children place.2).filterMap fun (name, _) ↦
    if Wildcard.covers pattern name then some (place.1.child name, place.2 ++ [name]) else none

/-- The entries below the root whose names end in `.java`. -/
def javaEntries (fs : FileSystem) (root : Path) (location : Location) : List Reached :=
  ((fs.directories root location).eraseDups.map (fs.coveredChildren javaWildcard)).flatten.eraseDups

theorem mem_directories {place : Reached} : place ∈ fs.directories root location ↔
    ∃ names, (names = [] ∨ fs.entry? (location ++ names) = some .directory) ∧
      place = (root.below names, location ++ names) := by
  rw [directories, List.mem_cons, List.mem_map]
  constructor
  · rintro (rfl | ⟨names, hnames, rfl⟩)
    · exact ⟨[], .inl rfl, by rw [Path.below_nil, List.append_nil]⟩
    · exact ⟨names, .inr (mem_directoriesBelow.1 hnames).2, rfl⟩
  · rintro ⟨names, h, rfl⟩
    by_cases hne : names = []
    · subst hne
      exact .inl (by rw [Path.below_nil, List.append_nil])
    · exact .inr ⟨names, mem_directoriesBelow.2 ⟨hne, h.resolve_left hne⟩, rfl⟩

theorem IsTree.mem_javaEntries (h : fs.IsTree) {place : Reached} :
    place ∈ fs.javaEntries root location ↔
      ∃ names, names ≠ [] ∧ isJavaName names = true ∧ (fs.entry? (location ++ names)).isSome ∧
        place = (root.below names, location ++ names) := by
  rw [javaEntries, List.mem_eraseDups, List.mem_flatten]
  constructor
  · rintro ⟨l, hl, hplace⟩
    obtain ⟨directory, hdirectory, rfl⟩ := List.mem_map.1 hl
    obtain ⟨names, -, rfl⟩ := mem_directories.1 (List.mem_eraseDups.1 hdirectory)
    obtain ⟨⟨name, entry⟩, hchild, hcovered⟩ := List.mem_filterMap.1 hplace
    simp only [Option.ite_none_right_eq_some, Option.some.injEq] at hcovered
    obtain ⟨hcovers, rfl⟩ := hcovered
    rw [covers_javaWildcard names] at hcovers
    rw [mem_children, List.append_assoc] at hchild
    refine ⟨names ++ [name], by simp, hcovers, by rw [hchild]; rfl, ?_⟩
    rw [Path.child_below, List.append_assoc]
  · rintro ⟨names, hne, hjava, hentry, rfl⟩
    obtain ⟨front, name, rfl⟩ := (List.eq_nil_or_concat names).resolve_left hne
    rw [List.concat_eq_append, ← List.append_assoc] at hentry
    rw [List.concat_eq_append] at hjava ⊢
    obtain ⟨entry, hsome⟩ := Option.isSome_iff_exists.1 hentry
    have hdirectory : (root.below front, location ++ front) ∈ fs.directories root location :=
      mem_directories.2 ⟨front, .inr (h.parent hentry), rfl⟩
    refine ⟨_, List.mem_map_of_mem (List.mem_eraseDups.2 hdirectory), ?_⟩
    refine List.mem_filterMap.2 ⟨(name, entry), mem_children.2 hsome, ?_⟩
    simp only [covers_javaWildcard front, if_pos hjava, Path.child_below, List.append_assoc]

/-- A list of places can be looked up if each of them can. -/
theorem mapM_check (places : List Reached) :
    places.mapM Reached.check =
      if places.any fun place ↦ place.1.isTooLong then .error .tooLong else .ok places := by
  induction places with
  | nil => rfl
  | cons place places ih =>
    have hcheck : place.check = if place.1.isTooLong then .error .tooLong else .ok place := by
      simp [Reached.check, Path.isTooLong]
    rw [List.mapM_cons, hcheck, ih, List.any_cons]
    cases place.1.isTooLong with
    | true => rfl
    | false => cases places.any fun place ↦ place.1.isTooLong <;> rfl

theorem reach_anyDepth (hdirectory : fs.entry? location = some .directory) (only : Bool) :
    fs.reach .anyDepth only (root, location) =
      (fs.directories root location).mapM Reached.check := by
  simp only [reach, isDirectoryAt_iff.2 hdirectory, if_true]
  rfl

theorem reach_wild {place : Reached} (h : place.1.isTooLong = false) (pattern : List Wildcard) :
    fs.reach (.wild pattern) false place = .ok (fs.coveredChildren pattern place) := by
  have hcheck : place.check = .ok place := by
    rw [Path.isTooLong, decide_eq_false_iff_not] at h
    rw [Reached.check, if_neg h]
  rw [reach, hcheck, ok_bind, coveredChildren]
  refine congrArg Except.ok (List.filterMap_congr ?_)
  rintro ⟨name, entry⟩ -
  cases entry <;> simp

/-- The search goes through all directories, and then through their entries. -/
theorem reachAll_usual (hdirectory : fs.entry? location = some .directory) :
    fs.reachAll false [(root, location)] [.anyDepth, .wild javaWildcard] =
      if (fs.directories root location).any fun place ↦ place.1.isTooLong then .error .tooLong
      else if (fs.javaEntries root location).any fun place ↦ place.1.isTooLong then .error .tooLong
      else .ok (fs.javaEntries root location) := by
  rw [reachAll, List.mapM_cons, reach_anyDepth hdirectory, mapM_check]
  split
  · rfl
  · rename_i hshort
    rw [ok_bind, List.mapM_nil, pure_bind, pure_bind, List.flatten_singleton, reachAll]
    have hreach :
        (fs.directories root location).eraseDups.mapM (fs.reach (.wild javaWildcard) false) =
          .ok ((fs.directories root location).eraseDups.map (fs.coveredChildren javaWildcard)) := by
      refine mapM_eq_ok_map fun place hplace ↦ reach_wild ?_ javaWildcard
      rw [← Bool.not_eq_true]
      exact fun h ↦ hshort (List.any_eq_true.2 ⟨place, List.mem_eraseDups.1 hplace, h⟩)
    change (fs.directories root location).eraseDups.mapM
      (fs.reach (.wild javaWildcard) false) >>= _ = _
    rw [hreach, ok_bind, reachAll, mapM_check]
    rfl

theorem IsTree.isWithinReach_iff (h : fs.IsTree)
    (hdirectory : fs.entry? location = some .directory) :
    fs.IsWithinReach root location ↔
      (∀ place ∈ fs.directories root location, place.1.isTooLong = false) ∧
        ∀ place ∈ fs.javaEntries root location, place.1.isTooLong = false := by
  constructor
  · refine fun hreach ↦ ⟨fun place hplace ↦ ?_, fun place hplace ↦ ?_⟩
    · obtain ⟨names, hnames, rfl⟩ := mem_directories.1 hplace
      refine hreach names .directory ?_ (.inl rfl)
      rcases hnames with rfl | hnames
      · rwa [List.append_nil]
      · exact hnames
    · obtain ⟨names, -, hjava, hentry, rfl⟩ := h.mem_javaEntries.1 hplace
      obtain ⟨entry, hentry⟩ := Option.isSome_iff_exists.1 hentry
      exact hreach names entry hentry (.inr hjava)
  · rintro ⟨hdirectories, hjava⟩ names entry hentry (rfl | hname)
    · exact hdirectories _ (mem_directories.2 ⟨names, .inr hentry, rfl⟩)
    · have hne : names ≠ [] := by
        rintro rfl
        cases hname
      exact hjava _ (h.mem_javaEntries.2 ⟨names, hne, hname, by rw [hentry]; rfl, rfl⟩)

/-- The regular files below the root whose names end in `.java`, as they are in order. -/
def javaFiles (fs : FileSystem) (root : Path) (location : Location) : List Path :=
  (((fs.javaEntries root location).filter fun (_, place) ↦
    match fs.entry? place with
    | some (.file _) => true
    | _ => false).map Prod.fst).mergeSort Path.le

theorem matchingFiles_usual (hroot : fs.locate root = .ok location)
    (hdirectory : fs.entry? location = some .directory) :
    fs.matchingFiles root ⟨[.anyDepth, .wild javaWildcard], false⟩ =
      if (fs.directories root location).any fun place ↦ place.1.isTooLong then .error .tooLong
      else if (fs.javaEntries root location).any fun place ↦ place.1.isTooLong then .error .tooLong
      else .ok (fs.javaFiles root location) := by
  simp only [matchingFiles, hroot, isDirectoryAt_iff.2 hdirectory, Bool.not_true,
    Bool.false_eq_true, if_false, reachAll_usual hdirectory]
  split
  · rfl
  · split <;> rfl

theorem IsTree.matchingFiles_of_isWithinReach (h : fs.IsTree)
    (hroot : fs.locate root = .ok location) (hdirectory : fs.entry? location = some .directory)
    (hreach : fs.IsWithinReach root location) :
    fs.matchingFiles root ⟨[.anyDepth, .wild javaWildcard], false⟩ =
      .ok (fs.javaFiles root location) := by
  obtain ⟨hdirectories, hjava⟩ := (h.isWithinReach_iff hdirectory).1 hreach
  rw [matchingFiles_usual hroot hdirectory, if_neg (by simpa using hdirectories),
    if_neg (by simpa using hjava)]

theorem IsTree.matchingFiles_of_not_isWithinReach (h : fs.IsTree)
    (hroot : fs.locate root = .ok location) (hdirectory : fs.entry? location = some .directory)
    (hreach : ¬fs.IsWithinReach root location) :
    fs.matchingFiles root ⟨[.anyDepth, .wild javaWildcard], false⟩ = .error .tooLong := by
  rw [matchingFiles_usual hroot hdirectory]
  split
  · rfl
  · rename_i hdirectories
    split
    · rfl
    · rename_i hjava
      exact absurd ((h.isWithinReach_iff hdirectory).2
        ⟨by simpa using hdirectories, by simpa using hjava⟩) hreach

theorem IsTree.mem_javaFiles (h : fs.IsTree) {path : Path} :
    path ∈ fs.javaFiles root location ↔
      ∃ names content, isJavaName names = true ∧
        fs.entry? (location ++ names) = some (.file content) ∧ path = root.below names := by
  rw [javaFiles, List.mem_mergeSort, List.mem_map]
  constructor
  · rintro ⟨place, hplace, rfl⟩
    obtain ⟨hentry, hfile⟩ := List.mem_filter.1 hplace
    obtain ⟨names, -, hjava, -, rfl⟩ := h.mem_javaEntries.1 hentry
    simp only at hfile
    split at hfile
    · rename_i content hcontent
      exact ⟨names, content, hjava, hcontent, rfl⟩
    · cases hfile
  · rintro ⟨names, content, hjava, hcontent, rfl⟩
    have hne : names ≠ [] := by
      rintro rfl
      cases hjava
    refine ⟨(root.below names, location ++ names), List.mem_filter.2 ⟨?_, ?_⟩, rfl⟩
    · exact h.mem_javaEntries.2 ⟨names, hne, hjava, by rw [hcontent]; rfl, rfl⟩
    · simp only [hcontent]

theorem IsTree.nodup_javaFiles (h : fs.IsTree) : (fs.javaFiles root location).Nodup := by
  rw [javaFiles, (List.mergeSort_perm _ _).nodup_iff]
  have hnodup : (fs.javaEntries root location).Nodup := by
    rw [javaEntries]
    exact nodup_eraseDups _
  refine List.Nodup.map_on ?_ (hnodup.filter _)
  intro place hplace other hother heq
  obtain ⟨names, -, -, -, rfl⟩ := h.mem_javaEntries.1 (List.mem_filter.1 hplace).1
  obtain ⟨others, -, -, -, rfl⟩ := h.mem_javaEntries.1 (List.mem_filter.1 hother).1
  rw [Path.below_injective heq]

end FileSystem

/-- If every element can be decided on, exactly those that are accepted are kept. -/
theorem exists_filterM_eq_ok {ε α : Type} {f : α → Except ε Bool} {xs : List α}
    (h : ∀ x ∈ xs, ∃ kept, f x = .ok kept) :
    ∃ found, xs.filterM f = .ok found ∧ found.Sublist xs ∧
      ∀ x, x ∈ found ↔ x ∈ xs ∧ f x = .ok true := by
  have hrun (known : List α) : ∃ found : List α,
      List.filterAuxM f xs known = .ok (found.reverse ++ known) ∧
      found.Sublist xs ∧ ∀ x, x ∈ found ↔ x ∈ xs ∧ f x = .ok true := by
    induction xs generalizing known with
    | nil => exact ⟨[], rfl, List.Sublist.refl _, fun x ↦ by simp⟩
    | cons y ys ih =>
      obtain ⟨kept, hy⟩ := h y List.mem_cons_self
      have hys : ∀ x ∈ ys, ∃ kept, f x = .ok kept := fun x hx ↦ h x (List.mem_cons_of_mem _ hx)
      rw [List.filterAuxM, hy, ok_bind]
      cases kept with
      | true =>
        obtain ⟨found, hfound, hsub, hmem⟩ := ih hys (y :: known)
        refine ⟨y :: found, by simpa using hfound, hsub.cons_cons y, fun x ↦ ?_⟩
        rw [List.mem_cons, List.mem_cons, hmem, or_and_right]
        exact or_congr_left ⟨fun hx ↦ ⟨hx, hx ▸ hy⟩, And.left⟩
      | false =>
        obtain ⟨found, hfound, hsub, hmem⟩ := ih hys known
        refine ⟨found, hfound, hsub.cons y, fun x ↦ ?_⟩
        rw [List.mem_cons, hmem, or_and_right]
        refine ⟨.inr, fun hx ↦ hx.resolve_left fun ⟨heq, htrue⟩ ↦ ?_⟩
        rw [heq, hy] at htrue
        cases htrue
  obtain ⟨found, hfound, hkept⟩ := hrun []
  refine ⟨found, ?_, hkept⟩
  rw [List.filterM, hfound, ok_bind, List.append_nil, List.reverse_reverse]
  rfl

/-- If what elements cannot be decided for is the same for all of them, it is what ends the
filtering. -/
theorem filterM_eq_error {ε α : Type} {f : α → Except ε Bool} {xs : List α} {e : ε}
    (h : ∀ x ∈ xs, (∃ kept, f x = .ok kept) ∨ f x = .error e) {x : α} (hx : x ∈ xs)
    (hfault : f x = .error e) : xs.filterM f = .error e := by
  have hrun (known : List α) : List.filterAuxM f xs known = .error e := by
    induction xs generalizing known with
    | nil => cases hx
    | cons y ys ih =>
      rw [List.filterAuxM]
      rcases h y List.mem_cons_self with ⟨kept, hy⟩ | hy
      · have hys : x ∈ ys := (List.mem_cons.1 hx).resolve_left fun heq ↦ by
          rw [heq, hy] at hfault
          cases hfault
        rw [hy, ok_bind]
        exact ih (fun z hz ↦ h z (List.mem_cons_of_mem _ hz)) hys _
      · rw [hy]
        rfl
  rw [List.filterM, hrun]
  rfl

namespace FileSystem

/-- The sources below the root: the regular files at any depth whose names end in `.java` and
that are worth scanning, each once, in the order of their paths. -/
structure AreSources (fs : FileSystem) (codec : Codec) (root : Path) (location : Location)
    (found : List Path) : Prop where
  sorted : found.Pairwise fun path other ↦ path.le other = true
  nodup : found.Nodup
  mem_iff : ∀ path, path ∈ found ↔ ∃ names content, isJavaName names = true ∧
    fs.entry? (location ++ names) = some (.file content) ∧
    codec.isWorthScanning content = true ∧ path = root.below names

/-- The codec copes with every file below the place whose name ends in `.java`. -/
def IsReadable (fs : FileSystem) (codec : Codec) (location : Location) : Prop :=
  ∀ names content, isJavaName names = true →
    fs.entry? (location ++ names) = some (.file content) → codec.Copes content

variable {runtime : Runtime} {fs : FileSystem} {root : Path} {location : Location}
  {names : List LooseText} {codec : Codec} {encoding : LooseText} {content : ByteArray}

theorem IsTree.read_below (h : fs.IsTree) (hroot : fs.locate root = .ok location)
    (hreach : fs.IsWithinReach root location) (hjava : isJavaName names = true)
    (hentry : fs.entry? (location ++ names) = some (.file content)) :
    fs.read (root.below names) = .ok content := by
  have hlocate := h.locate_below hroot (by rw [hentry]; rfl)
    (hreach names _ hentry (.inr hjava))
  rw [read, lookup, hlocate, ok_bind, hentry]
  rfl

/-- Below a directory within reach the search goes through the files whose names end in `.java`. -/
theorem IsTree.findSources_of_isWithinReach (h : fs.IsTree)
    (hroot : fs.locate root = .ok location) (hdirectory : fs.entry? location = some .directory)
    (hreach : fs.IsWithinReach root location) :
    findSources runtime fs root "**/*.java" encoding =
      (fs.javaFiles root location).filterM (isCandidate runtime fs encoding) := by
  have hbeyond : fs.isBeyondReach root = false := by rw [isBeyondReach, hroot]
  have hfile : fs.isFile root = false := by rw [isFile, lookup, hroot, ok_bind, hdirectory]; rfl
  rw [findSources, hbeyond, hfile, PathPattern.parse_usual]
  change ((fs.matchingFiles root _).mapError SearchError.place >>= _) = _
  rw [h.matchingFiles_of_isWithinReach hroot hdirectory hreach]
  rfl

/-- A search with the usual pattern and a codec that copes with the files finds the sources below a
directory. -/
theorem IsTree.exists_findSources (h : fs.IsTree) (hroot : fs.locate root = .ok location)
    (hdirectory : fs.entry? location = some .directory) (hreach : fs.IsWithinReach root location)
    (hcodec : runtime.HasCodec encoding codec) (hreadable : fs.IsReadable codec location) :
    ∃ found, findSources runtime fs root "**/*.java" encoding = .ok found ∧
      fs.AreSources codec root location found := by
  have hcandidate {names : List LooseText} {content : ByteArray} (hjava : isJavaName names = true)
      (hentry : fs.entry? (location ++ names) = some (.file content)) :
      isCandidate runtime fs encoding (root.below names) = .ok (codec.isWorthScanning content) :=
    isCandidate_of_copes hcodec (h.read_below hroot hreach hjava hentry)
      (hreadable names content hjava hentry)
  obtain ⟨found, hfound, hsub, hmem⟩ :=
    @exists_filterM_eq_ok _ _ (isCandidate runtime fs encoding) (fs.javaFiles root location)
      fun path hpath ↦ by
        obtain ⟨names, content, hjava, hentry, rfl⟩ := h.mem_javaFiles.1 hpath
        exact ⟨_, hcandidate hjava hentry⟩
  refine ⟨found, (h.findSources_of_isWithinReach hroot hdirectory hreach).trans hfound,
    (Path.pairwise_mergeSort _).sublist hsub, h.nodup_javaFiles.sublist hsub, fun path ↦ ?_⟩
  rw [hmem, h.mem_javaFiles]
  constructor
  · rintro ⟨⟨names, content, hjava, hentry, rfl⟩, hkept⟩
    rw [hcandidate hjava hentry] at hkept
    exact ⟨names, content, hjava, hentry, Except.ok.inj hkept, rfl⟩
  · rintro ⟨names, content, hjava, hentry, hkept, rfl⟩
    refine ⟨⟨names, content, hjava, hentry, rfl⟩, ?_⟩
    rw [hcandidate hjava hentry, hkept]

/-- The search ends early if the codec gives up on one of the files. -/
theorem IsTree.findSources_of_not_isReadable (h : fs.IsTree)
    (hroot : fs.locate root = .ok location) (hdirectory : fs.entry? location = some .directory)
    (hreach : fs.IsWithinReach root location) (hcodec : runtime.HasCodec encoding codec)
    (hreadable : ¬fs.IsReadable codec location) :
    findSources runtime fs root "**/*.java" encoding = .error (.unreadable .refused) := by
  rw [h.findSources_of_isWithinReach hroot hdirectory hreach]
  simp only [IsReadable, not_forall] at hreadable
  obtain ⟨names, content, hjava, hentry, hcopes⟩ := hreadable
  refine filterM_eq_error (fun path hpath ↦ ?_)
    (h.mem_javaFiles.2 ⟨names, content, hjava, hentry, rfl⟩)
    (isCandidate_of_not_copes hcodec (h.read_below hroot hreach hjava hentry) hcopes)
  obtain ⟨names, content, hjava, hentry, rfl⟩ := h.mem_javaFiles.1 hpath
  have hread := h.read_below hroot hreach hjava hentry
  by_cases hcopes : codec.Copes content
  · exact .inl ⟨_, isCandidate_of_copes hcodec hread hcopes⟩
  · exact .inr (isCandidate_of_not_copes hcodec hread hcopes)

/-- The search ends early if something that it looks at is out of reach. -/
theorem IsTree.findSources_of_not_isWithinReach (h : fs.IsTree)
    (hroot : fs.locate root = .ok location) (hdirectory : fs.entry? location = some .directory)
    (hreach : ¬fs.IsWithinReach root location) (runtime : Runtime) (encoding : LooseText) :
    findSources runtime fs root "**/*.java" encoding = .error (.place .tooLong) := by
  have hbeyond : fs.isBeyondReach root = false := by rw [isBeyondReach, hroot]
  have hfile : fs.isFile root = false := by rw [isFile, lookup, hroot, ok_bind, hdirectory]; rfl
  rw [findSources, hbeyond, hfile, PathPattern.parse_usual]
  change ((fs.matchingFiles root _).mapError SearchError.place >>= _) = _
  rw [h.matchingFiles_of_not_isWithinReach hroot hdirectory hreach]
  rfl

end FileSystem

end EndpointStubs
