import EndpointStubs.Proofs.GeneratedSources
import EndpointStubs.Proofs.RepeatedFacts
import EndpointStubs.Proofs.SourceTree
import Mathlib.Data.List.Flatten

/-!
# Files that are no text

Files whose bytes are no text in the encoding do no harm, wherever they are put
below a directory: the other files are found and scanned as without them, so the
facts, the model and the generated files stay what they were, and each of them is
reported once. This needs paths that can be looked up, and a codec that says that
such bytes are no text. One path that is too long ends the search for all files,
and so does one file that the codec gives up on for a reason of its own.
-/

namespace EndpointStubs

/-- The second file system has files more, whose names end in `.java` and whose bytes are no text
in the encoding, and directories more, at any places. -/
structure FileSystem.AddsUndecodable (before after : FileSystem) (codec : Codec) : Prop where
  workingDirectory : after.workingDirectory = before.workingDirectory
  kept : ∀ location entry, before.entry? location = some entry → after.entry? location = some entry
  added : ∀ location content, after.entry? location = some (.file content) →
    before.entry? location = none →
      isJavaName location = true ∧ ∃ e, codec.decode content = .error e

theorem isJavaName_append {location : Location} {names : List LooseText} (h : names ≠ []) :
    isJavaName (location ++ names) = isJavaName names := by
  obtain ⟨front, name, rfl⟩ := (List.eq_nil_or_concat names).resolve_left h
  rw [List.concat_eq_append, ← List.append_assoc, isJavaName, isJavaName, List.getLast?_concat,
    List.getLast?_concat]

namespace FileSystem

variable {before after : FileSystem} {root : Path} {location : Location}

/-- Entries that are listed behind the others, under names of their own. -/
theorem addsUndecodable_append {entries added : List (Location × Entry)} {codec : Codec}
    (hnodup : ((entries ++ added).map Prod.fst).Nodup)
    (hadded : ∀ location entry, (location, entry) ∈ added →
      entry = .directory ∨ isJavaName location = true ∧
        ∃ content, entry = .file content ∧ ∃ e, codec.decode content = .error e)
    (workingDirectory : Location) :
    AddsUndecodable ⟨.ofList entries, workingDirectory⟩
      ⟨.ofList (entries ++ added), workingDirectory⟩ codec := by
  have hfront : (entries.map Prod.fst).Nodup := by
    rw [List.map_append] at hnodup
    exact (List.nodup_append.1 hnodup).1
  refine ⟨rfl, fun location entry hentry ↦ ?_, fun location content hentry hnone ↦ ?_⟩
  · by_cases hne : location = []
    · subst hne
      exact hentry
    · rw [entry?_of_ne_nil hne] at hentry ⊢
      rw [Registry.get?_ofList_eq_some_iff hfront] at hentry
      exact (Registry.get?_ofList_eq_some_iff hnodup).2 (List.mem_append_left _ hentry)
  · have hne : location ≠ [] := by
      rintro rfl
      cases hentry
    rw [entry?_of_ne_nil hne] at hentry hnone
    rcases List.mem_append.1 ((Registry.get?_ofList_eq_some_iff hnodup).1 hentry) with hold | hnew
    · rw [(Registry.get?_ofList_eq_some_iff hfront).2 hold] at hnone
      cases hnone
    · obtain ⟨hjava, other, heq, hdecode⟩ := (hadded _ _ hnew).resolve_left Entry.noConfusion
      cases heq
      exact ⟨hjava, hdecode⟩

theorem follow_of_kept (h : ∀ l entry, before.entry? l = some entry → after.entry? l = some entry)
    {names : List LooseText} {reached : Location}
    (hfollow : before.follow location names = .ok reached) :
    after.follow location names = .ok reached := by
  induction names generalizing location with
  | nil => exact hfollow
  | cons name names ih =>
    rw [follow] at hfollow ⊢
    cases hentry : before.entry? location with
    | none =>
      rw [hentry] at hfollow
      cases hfollow
    | some entry =>
      rw [hentry] at hfollow
      rw [h _ _ hentry]
      cases entry with
      | file content => exact hfollow
      | directory =>
        simp only at hfollow ⊢
        split_ifs at hfollow ⊢
        · exact ih hfollow
        · exact ih hfollow
        · exact ih hfollow

namespace AddsUndecodable

variable {codec : Codec} (h : before.AddsUndecodable after codec)

include h

theorem locate (hroot : before.locate root = .ok location) : after.locate root = .ok location := by
  have hstart : after.start root = before.start root := by
    rw [start, start, h.workingDirectory]
  have hnone := pathFault?_of_locate hroot
  rw [FileSystem.locate, hnone] at hroot ⊢
  rw [hstart]
  exact follow_of_kept h.kept hroot

theorem isWithinReach (hreach : after.IsWithinReach root location) :
    before.IsWithinReach root location := fun names entry hentry ↦
  hreach names entry (h.kept _ _ hentry)

/-- A file was there before with this content, or it is one of the added files. -/
theorem file_cases {names : List LooseText} {content : ByteArray}
    (hdirectory : before.entry? location = some .directory)
    (hentry : after.entry? (location ++ names) = some (.file content)) :
    before.entry? (location ++ names) = some (.file content) ∨
      before.entry? (location ++ names) = none ∧ isJavaName names = true ∧
        ∃ e, codec.decode content = .error e := by
  cases hbefore : before.entry? (location ++ names) with
  | some entry =>
    rw [h.kept _ _ hbefore, Option.some.injEq] at hentry
    exact .inl (congrArg some hentry)
  | none =>
    have hne : names ≠ [] := by
      rintro rfl
      rw [List.append_nil, hdirectory] at hbefore
      cases hbefore
    obtain ⟨hjava, hdecode⟩ := h.added _ _ hentry hbefore
    exact .inr ⟨rfl, isJavaName_append hne ▸ hjava, hdecode⟩

end AddsUndecodable

end FileSystem

section Scanning

variable {runtime : Runtime} {fs other : FileSystem} {path : Path} {encoding : LooseText}
  {codec : Codec} {content : ByteArray} {paths : List Path}

theorem scanFile_of_read (hcodec : runtime.HasCodec encoding codec)
    (hread : fs.read path = .ok content) (hother : other.read path = .ok content) :
    scanFile runtime fs encoding path = scanFile runtime other encoding path := by
  rw [scanFile, scanFile, FileSystem.readText_of_hasCodec hcodec hread,
    FileSystem.readText_of_hasCodec hcodec hother]

theorem scanFile_of_malformed (hcodec : runtime.HasCodec encoding codec)
    (hread : fs.read path = .ok content) (hdecode : codec.decode content = .error .malformed) :
    scanFile runtime fs encoding path = .ok ⟨[], [.unreadable path.text]⟩ := by
  rw [scanFile, FileSystem.readText_of_hasCodec hcodec hread, hdecode]
  rfl

theorem scanFiles_congr (h : ∀ path ∈ paths,
    scanFile runtime fs encoding path = scanFile runtime other encoding path) :
    scanFiles runtime fs encoding paths = scanFiles runtime other encoding paths := by
  induction paths with
  | nil => rfl
  | cons path paths ih =>
    rw [scanFiles, scanFiles, h path List.mem_cons_self,
      ih fun p hp ↦ h p (List.mem_cons_of_mem _ hp)]

/-- If what files cannot be scanned for is the same for all of them, it ends the scanning. -/
theorem scanFiles_eq_error {e : SearchError}
    (h : ∀ path ∈ paths, (∃ scanned, scanFile runtime fs encoding path = .ok scanned) ∨
      scanFile runtime fs encoding path = .error e)
    (hpath : path ∈ paths) (hfault : scanFile runtime fs encoding path = .error e) :
    scanFiles runtime fs encoding paths = .error e := by
  induction paths with
  | nil => cases hpath
  | cons first paths ih =>
    rw [scanFiles]
    rcases h first List.mem_cons_self with ⟨scanned, hfirst⟩ | hfirst
    · have hmem : path ∈ paths := (List.mem_cons.1 hpath).resolve_left fun heq ↦ by
        rw [heq, hfirst] at hfault
        cases hfault
      rw [hfirst, ok_bind, ih (fun p hp ↦ h p (List.mem_cons_of_mem _ hp)) hmem]
      rfl
    · rw [hfirst]
      rfl

end Scanning

/-- Files that are only reported add their reports to those of the others, and nothing else. -/
theorem exists_scanFiles_of_reported {runtime : Runtime} {fs : FileSystem}
    {encoding : LooseText} {reported paths : List Path}
    (hreported : ∀ path ∈ reported,
      scanFile runtime fs encoding path = .ok ⟨[], [.unreadable path.text]⟩)
    (hothers : ∀ path ∈ paths, ∃ scanned, scanFile runtime fs encoding path = .ok scanned) :
    ∃ scanned scanned', scanFiles runtime fs encoding (paths.filter (· ∉ reported)) = .ok scanned ∧
      scanFiles runtime fs encoding paths = .ok scanned' ∧ scanned'.facts = scanned.facts ∧
      scanned.diagnostics.Sublist scanned'.diagnostics ∧
      scanned'.diagnostics.Perm
        (scanned.diagnostics ++
          (paths.filter (· ∈ reported)).map fun path ↦ .unreadable path.text) := by
  let scan (path : Path) : Scanned := ((scanFile runtime fs encoding path).toOption).getD {}
  have hscan : ∀ path ∈ paths,
      scanFile runtime fs encoding path = .ok (scan path) := fun path hpath ↦ by
    obtain ⟨scanned, h⟩ := hothers path hpath
    simp only [scan, h, Except.toOption, Option.getD_some]
  have hfiles (l : List Path) (hl : ∀ path ∈ l, path ∈ paths) : scanFiles runtime fs encoding l =
      .ok ⟨l.flatMap fun path ↦ (scan path).facts,
        l.flatMap fun path ↦ (scan path).diagnostics⟩ := by
    rw [scanFiles_eq_mapM, mapM_eq_ok_map fun path hpath ↦ hscan path (hl path hpath)]
    simp only [Except.map, List.flatMap_map]
  have hscan_reported : ∀ path ∈ paths.filter (· ∈ reported),
      scan path = ⟨[], [.unreadable path.text]⟩ := fun path hpath ↦ by
    obtain ⟨hpath, hmem⟩ := List.mem_filter.1 hpath
    exact Except.ok.inj ((hscan path hpath).symm.trans (hreported path (of_decide_eq_true hmem)))
  have hkept := hfiles (paths.filter (· ∉ reported)) fun path hpath ↦ (List.mem_filter.1 hpath).1
  refine ⟨_, _, hkept, hfiles paths fun _ hpath ↦ hpath, ?_, ?_, ?_⟩
  · have hfacts := map_facts_scanFiles (fun path hpath ↦ ⟨_, hreported path hpath⟩) paths
    rw [hfiles paths fun _ hpath ↦ hpath, hkept] at hfacts
    exact Except.ok.inj hfacts
  · exact List.filter_sublist.flatMap _
  · have hdiagnostics : ((paths.filter (· ∈ reported)).flatMap fun path ↦ (scan path).diagnostics) =
        (paths.filter (· ∈ reported)).map fun path ↦ .unreadable path.text := by
      rw [List.map_eq_flatMap]
      exact List.flatMap_congr fun path hpath ↦ by rw [hscan_reported path hpath]
    rw [← hdiagnostics, ← List.flatMap_append]
    refine List.Perm.flatMap_right _ ?_
    refine ((List.filter_append_perm (· ∈ reported) paths).symm.trans
      List.perm_append_comm).trans ?_
    rw [List.filter_congr fun path _ ↦ (decide_not (p := path ∈ reported)).symm]

/-! ## The whole search -/

namespace FileSystem

variable {before after : FileSystem} {root : Path} {location : Location} {codec : Codec}

/-- The path leads to a file that only the second file system has. -/
def IsAddedFile (before after : FileSystem) (root : Path) (location : Location) (path : Path) :
    Prop :=
  ∃ names content, after.entry? (location ++ names) = some (.file content) ∧
    before.entry? (location ++ names) = none ∧ path = root.below names

namespace AddsUndecodable

variable (h : before.AddsUndecodable after codec) {found found' : List Path}
  (hfound : before.AreSources codec root location found)
  (hfound' : after.AreSources codec root location found')

include h hfound hfound'

theorem mem_of_mem {path : Path} (hpath : path ∈ found) : path ∈ found' := by
  obtain ⟨names, content, hjava, hentry, hworth, rfl⟩ := (hfound.mem_iff path).1 hpath
  exact (hfound'.mem_iff _).2 ⟨names, content, hjava, h.kept _ _ hentry, hworth, rfl⟩

/-- The added files are what only the second search finds. -/
theorem isAddedFile_iff (hdirectory : before.entry? location = some .directory) {path : Path} :
    IsAddedFile before after root location path ↔ path ∈ found' ∧ path ∉ found := by
  rw [hfound.mem_iff, hfound'.mem_iff]
  constructor
  · rintro ⟨names, content, hentry, hnone, rfl⟩
    obtain ⟨-, hjava, e, hdecode⟩ :=
      (h.file_cases hdirectory hentry).resolve_left (by simp [hnone])
    refine ⟨⟨names, content, hjava, hentry, by rw [Codec.isWorthScanning, hdecode], rfl⟩, ?_⟩
    rintro ⟨others, other, -, hother, -, heq⟩
    rw [← Path.below_injective heq, hnone] at hother
    cases hother
  · rintro ⟨⟨names, content, hjava, hentry, hworth, rfl⟩, hnew⟩
    rcases h.file_cases hdirectory hentry with hold | ⟨hnone, -, -⟩
    · exact absurd ⟨names, content, hjava, hold, hworth, rfl⟩ hnew
    · exact ⟨names, content, hentry, hnone, rfl⟩

theorem eq_filter : found = found'.filter (· ∉ found'.filter (· ∉ found)) := by
  refine List.Perm.eq_of_pairwise ?_ hfound.sorted (hfound'.sorted.filter _) ?_
  · intro path other hpath hother hle hge
    obtain ⟨names, -, -, -, -, rfl⟩ := (hfound.mem_iff path).1 hpath
    obtain ⟨others, -, -, -, -, rfl⟩ := (hfound'.mem_iff other).1 (List.mem_filter.1 hother).1
    rw [List.append_cancel_left (Path.components_eq_of_le hle hge)]
  · refine (List.perm_ext_iff_of_nodup hfound.nodup (hfound'.nodup.filter _)).2 fun path ↦ ?_
    simp only [List.mem_filter, decide_eq_true_eq, not_and, not_not]
    exact ⟨fun hpath ↦ ⟨h.mem_of_mem hfound hfound' hpath, fun _ ↦ hpath⟩, fun hpath ↦
      hpath.2 hpath.1⟩

end AddsUndecodable

end FileSystem

/-- The types of each file that is worth scanning are at most so deep within each other. -/
def FileSystem.NestsWithin (fs : FileSystem) (codec : Codec) (room : Nat) (location : Location) :
    Prop :=
  ∀ names content, isJavaName names = true →
    fs.entry? (location ++ names) = some (.file content) →
      codec.isWorthScanning content = true → codec.NestsWithin room content

namespace FileSystem

section Sources

variable {runtime : Runtime} {fs before after : FileSystem} {encoding : LooseText} {codec : Codec}
  {root : Path} {location : Location} {found found' : List Path}

/-- Scanning a source fails if its types are too deep within each other, and not otherwise. -/
theorem IsTree.scanFile_source_cases (h : fs.IsTree) (hroot : fs.locate root = .ok location)
    (hreach : fs.IsWithinReach root location) (hcodec : runtime.HasCodec encoding codec)
    (hreadable : fs.IsReadable codec location) (hfound : fs.AreSources codec root location found)
    {path : Path} (hpath : path ∈ found) :
    (∃ scanned, scanFile runtime fs encoding path = .ok scanned) ∨
      ¬fs.NestsWithin codec runtime.nesting location ∧
        scanFile runtime fs encoding path = .error (.scan .tooDeep) := by
  obtain ⟨names, content, hjava, hentry, hworth, rfl⟩ := (hfound.mem_iff path).1 hpath
  have hread := h.read_below hroot hreach hjava hentry
  rcases scanFile_cases hcodec hread (hreadable names content hjava hentry) with
    ⟨-, hscan⟩ | ⟨hdeep, hscan⟩
  · exact .inl hscan
  · exact .inr ⟨fun hnests ↦ hdeep (hnests names content hjava hentry hworth), hscan⟩

theorem IsTree.exists_source_of_not_nestsWithin (h : fs.IsTree)
    (hroot : fs.locate root = .ok location) (hreach : fs.IsWithinReach root location)
    (hcodec : runtime.HasCodec encoding codec) (hreadable : fs.IsReadable codec location)
    (hfound : fs.AreSources codec root location found)
    (hnests : ¬fs.NestsWithin codec runtime.nesting location) :
    ∃ path ∈ found, scanFile runtime fs encoding path = .error (.scan .tooDeep) := by
  simp only [NestsWithin, not_forall] at hnests
  obtain ⟨names, content, hjava, hentry, hworth, hdeep⟩ := hnests
  refine ⟨_, (hfound.mem_iff _).2 ⟨names, content, hjava, hentry, hworth, rfl⟩, ?_⟩
  have hread := h.read_below hroot hreach hjava hentry
  rcases scanFile_cases hcodec hread (hreadable names content hjava hentry) with
    ⟨hnests, -⟩ | ⟨-, hscan⟩
  · exact absurd hnests hdeep
  · exact hscan

theorem isReadable_utf8 : fs.IsReadable Encoding.utf8.codec location :=
  fun _ content _ _ ↦ Encoding.decode_utf8_ne_refused content

/-- Each added file is reported. -/
theorem AddsUndecodable.scanFile_of_isAddedFile (h : before.AddsUndecodable after codec)
    (hafter : after.IsTree) (hroot : after.locate root = .ok location)
    (hdirectory : before.entry? location = some .directory)
    (hreach : after.IsWithinReach root location) (hcodec : runtime.HasCodec encoding codec)
    (hreadable : after.IsReadable codec location) {path : Path}
    (hpath : IsAddedFile before after root location path) :
    scanFile runtime after encoding path = .ok ⟨[], [.unreadable path.text]⟩ := by
  obtain ⟨names, content, hentry, hnone, rfl⟩ := hpath
  obtain ⟨-, hjava, e, hdecode⟩ :=
    (h.file_cases hdirectory hentry).resolve_left (by simp [hnone])
  cases e with
  | malformed =>
    exact scanFile_of_malformed hcodec (hafter.read_below hroot hreach hjava hentry) hdecode
  | refused => exact absurd hdecode (hreadable names content hjava hentry)

/-- The other sources are scanned as without the added files. -/
theorem AddsUndecodable.scanFile_congr (h : before.AddsUndecodable after codec)
    (hbefore : before.IsTree) (hafter : after.IsTree) (hroot : before.locate root = .ok location)
    (hreach : after.IsWithinReach root location) (hcodec : runtime.HasCodec encoding codec)
    (hfound : before.AreSources codec root location found) {path : Path} (hpath : path ∈ found) :
    scanFile runtime before encoding path = scanFile runtime after encoding path := by
  obtain ⟨names, content, hjava, hentry, -, rfl⟩ := (hfound.mem_iff path).1 hpath
  exact scanFile_of_read hcodec
    (hbefore.read_below hroot (h.isWithinReach hreach) hjava hentry)
    (hafter.read_below (h.locate hroot) hreach hjava (h.kept _ _ hentry))

end Sources

end FileSystem

open FileSystem in
/-- For every runtime and every tree of files, with the usual pattern and a known encoding, below
every directory: files that are no text can be added anywhere. With them and without them, the
sources are found in order; the facts are the same, and so are the model and the generated files;
and what is reported is what was reported without the added files, with one warning for each of
them. Scanning fails with them just if it fails without them, which is so if the types of a source
are too deep within each other. If a path is too long to be looked up, though, or the codec gives up
on a file, the search fails. -/
theorem undecodable_files_isolated {runtime : Runtime} {before after : FileSystem}
    (hbefore : before.IsTree) (hafter : after.IsTree) {encoding : LooseText} {codec : Codec}
    (hcodec : runtime.HasCodec encoding codec) (hadds : before.AddsUndecodable after codec)
    {root : Path} {location : Location} (hroot : before.locate root = .ok location)
    (hdirectory : before.entry? location = some .directory) :
    (after.IsWithinReach root location → after.IsReadable codec location →
      ∃ found found' added : List Path,
        findSources runtime before root "**/*.java" encoding = .ok found ∧
        findSources runtime after root "**/*.java" encoding = .ok found' ∧
        before.AreSources codec root location found ∧
        after.AreSources codec root location found' ∧
        added.Nodup ∧ (∀ path, path ∈ added ↔ IsAddedFile before after root location path) ∧
        (before.NestsWithin codec runtime.nesting location →
          ∃ scanned scanned' : Scanned,
            scanFiles runtime before encoding found = .ok scanned ∧
            scanFiles runtime after encoding found' = .ok scanned' ∧
            scanned'.facts = scanned.facts ∧
            (∀ order suffixes,
              roundModel order scanned'.facts = roundModel order scanned.facts ∧
              generate suffixes scanned'.facts (roundModel order scanned'.facts) =
                generate suffixes scanned.facts (roundModel order scanned.facts)) ∧
            scanned.diagnostics.Sublist scanned'.diagnostics ∧
            scanned'.diagnostics.Perm
              (scanned.diagnostics ++ added.map fun path ↦ .unreadable path.text)) ∧
        (¬before.NestsWithin codec runtime.nesting location →
          scanFiles runtime before encoding found = .error (.scan .tooDeep) ∧
          scanFiles runtime after encoding found' = .error (.scan .tooDeep))) ∧
    (after.IsWithinReach root location → ¬after.IsReadable codec location →
      findSources runtime after root "**/*.java" encoding = .error (.unreadable .refused)) ∧
    (¬after.IsWithinReach root location →
      findSources runtime after root "**/*.java" encoding = .error (.place .tooLong)) := by
  have hroot' := hadds.locate hroot
  have hdirectory' := hadds.kept _ _ hdirectory
  refine ⟨fun hreach' hreadable' ↦ ?_, fun hreach' ↦
    hafter.findSources_of_not_isReadable hroot' hdirectory' hreach' hcodec, fun hreach' ↦
    hafter.findSources_of_not_isWithinReach hroot' hdirectory' hreach' _ _⟩
  have hreach := hadds.isWithinReach hreach'
  have hreadable : before.IsReadable codec location := fun names content hjava hentry ↦
    hreadable' names content hjava (hadds.kept _ _ hentry)
  obtain ⟨found, hfind, hfound⟩ :=
    hbefore.exists_findSources hroot hdirectory hreach hcodec hreadable
  obtain ⟨found', hfind', hfound'⟩ :=
    hafter.exists_findSources hroot' hdirectory' hreach' hcodec hreadable'
  have hadded (path : Path) : IsAddedFile before after root location path ↔
      path ∈ found' ∧ path ∉ found :=
    hadds.isAddedFile_iff hfound hfound' hdirectory
  have hreported : ∀ path ∈ found'.filter (· ∉ found),
      scanFile runtime after encoding path = .ok ⟨[], [.unreadable path.text]⟩ := by
    intro path hpath
    rw [List.mem_filter, decide_eq_true_eq, ← hadded] at hpath
    exact hadds.scanFile_of_isAddedFile hafter hroot' hdirectory hreach' hcodec hreadable' hpath
  have hsame : ∀ path ∈ found,
      scanFile runtime before encoding path = scanFile runtime after encoding path :=
    fun path hpath ↦ hadds.scanFile_congr hbefore hafter hroot hreach' hcodec hfound hpath
  have hcases : ∀ path ∈ found', (∃ scanned, scanFile runtime after encoding path = .ok scanned) ∨
      ¬before.NestsWithin codec runtime.nesting location ∧
        scanFile runtime after encoding path = .error (.scan .tooDeep) := by
    intro path hpath
    by_cases hmem : path ∈ found
    · rw [← hsame path hmem]
      exact hbefore.scanFile_source_cases hroot hreach hcodec hreadable hfound hmem
    · exact .inl ⟨_, hreported path (List.mem_filter.2 ⟨hpath, decide_eq_true hmem⟩)⟩
  refine ⟨found, found', found'.filter (· ∉ found), hfind, hfind', hfound, hfound',
    hfound'.nodup.filter _, fun path ↦ ?_, fun hnests ↦ ?_, fun hnests ↦ ?_⟩
  · rw [hadded, List.mem_filter, decide_eq_true_eq]
  · obtain ⟨scanned, scanned', hscan, hscan', hfacts, hsublist, hperm⟩ :=
      exists_scanFiles_of_reported hreported fun path hpath ↦
        (hcases path hpath).resolve_right fun hdeep ↦ hdeep.1 hnests
    rw [← hadds.eq_filter hfound hfound', ← scanFiles_congr hsame] at hscan
    have hreports : found'.filter (· ∈ found'.filter (· ∉ found)) = found'.filter (· ∉ found) :=
      List.filter_congr fun path hpath ↦ by simp [hpath]
    rw [hreports] at hperm
    refine ⟨scanned, scanned', hscan, hscan', hfacts, fun order suffixes ↦ ?_, hsublist, hperm⟩
    rw [hfacts]
    exact ⟨rfl, rfl⟩
  · obtain ⟨path, hpath, hdeep⟩ :=
      hbefore.exists_source_of_not_nestsWithin hroot hreach hcodec hreadable hfound hnests
    have hmem := hadds.mem_of_mem hfound hfound' hpath
    have hall : ∀ path ∈ found', (∃ scanned, scanFile runtime after encoding path = .ok scanned) ∨
        scanFile runtime after encoding path = .error (.scan .tooDeep) :=
      fun p hp ↦ (hcases p hp).imp_right And.right
    refine ⟨scanFiles_eq_error (fun p hp ↦ ?_) hpath hdeep,
      scanFiles_eq_error hall hmem (hsame path hpath ▸ hdeep)⟩
    rw [hsame p hp]
    exact hall p (hadds.mem_of_mem hfound hfound' hp)

open FileSystem in
/-- A file with a byte that starts no character, in a directory of its own beside a controller. -/
theorem undecodable_files_isolated_beside :
    let source := "@RestController class A \x7b \x7d".toUTF8
    let entries : List (Location × Entry) :=
      [(["src"], .directory), (["src", "A.java"], .file source)]
    let added : List (Location × Entry) :=
      [(["src", "b"], .directory), (["src", "b", "B.java"], .file ⟨#[0xFF]⟩)]
    let before : FileSystem := ⟨.ofList entries, []⟩
    let after : FileSystem := ⟨.ofList (entries ++ added), []⟩
    ∃ (found found' : List Path) (scanned scanned' : Scanned),
      findSources .standard before ⟨"", ["src"]⟩ "**/*.java" "utf-8" = .ok found ∧
      findSources .standard after ⟨"", ["src"]⟩ "**/*.java" "utf-8" = .ok found' ∧
      scanFiles .standard before "utf-8" found = .ok scanned ∧
      scanFiles .standard after "utf-8" found' = .ok scanned' ∧ scanned'.facts = scanned.facts := by
  intro source entries added before after
  have hadds : before.AddsUndecodable after Encoding.utf8.codec := by
    refine addsUndecodable_append (by decide +kernel) (fun location entry hmem ↦ ?_) _
    simp only [added, List.mem_cons, Prod.mk.injEq, List.not_mem_nil, or_false] at hmem
    rcases hmem with ⟨rfl, rfl⟩ | ⟨rfl, rfl⟩
    · exact .inl rfl
    · exact .inr ⟨by decide +kernel, _, rfl, .malformed, by decide +kernel⟩
  have hdirectory : before.entry? ["src"] = some .directory := by decide +kernel
  have htree : after.IsTree := by decide +kernel
  have hreach : after.IsWithinReach ⟨"", ["src"]⟩ ["src"] :=
    (htree.isWithinReach_iff (by decide +kernel)).2 (by decide +kernel)
  have hnests : before.NestsWithin Encoding.utf8.codec Runtime.standard.nesting ["src"] := by
    intro names content _ hentry _ text hdecode
    rw [entry?_of_ne_nil (by simp), Registry.get?_eq_some_iff] at hentry
    have hcontent : content = source := by
      rcases List.mem_cons.1 hentry with heq | hmem
      · cases heq
      · exact Entry.file.inj (congrArg Prod.snd (List.mem_singleton.1 hmem))
    have hsource : Encoding.utf8.codec.decode source =
        .ok "@RestController class A \x7b \x7d".toList := by
      rw [Encoding.codec_decode]
      exact Encoding.decode_utf8_toUTF8 _
    rw [hcontent, hsource, Except.ok.injEq] at hdecode
    rw [← hdecode]
    decide +kernel
  have hroot : before.locate ⟨"", ["src"]⟩ = .ok ["src"] := by decide +kernel
  have hisolated := undecodable_files_isolated (by decide +kernel) htree
    (Runtime.hasCodec_utf8 .standard) hadds hroot hdirectory
  obtain ⟨found, found', _, hfind, hfind', -, -, -, -, hscan, -⟩ :=
    hisolated.1 hreach isReadable_utf8
  obtain ⟨scanned, scanned', hscan, hscan', hfacts, -⟩ := hscan hnests
  exact ⟨found, found', scanned, scanned', hfind, hfind', hscan, hscan', hfacts⟩

open FileSystem in
/-- The same file below a directory that is named by so many steps down and up again that the path
of the file, but not that of the directory, is too long. -/
theorem undecodable_file_out_of_reach :
    let entries : List (Location × Entry) := [(["d"], .directory)]
    let added : List (Location × Entry) := [(["d", "A.java"], .file ⟨#[0xFF]⟩)]
    let before : FileSystem := ⟨.ofList entries, []⟩
    let after : FileSystem := ⟨.ofList (entries ++ added), []⟩
    let root : Path := ⟨"", (List.replicate 818 (["d", ".."] : Location)).flatten ++ (["d"] : Location)⟩
    before.IsTree ∧ after.IsTree ∧
      before.AddsUndecodable after Encoding.utf8.codec ∧
      before.locate root = .ok ["d"] ∧ before.entry? ["d"] = some .directory ∧
      findSources .standard before root "**/*.java" "utf-8" = .ok [] ∧
      findSources .standard after root "**/*.java" "utf-8" = .error (.place .tooLong) := by
  intro entries added before after root
  have hadds : before.AddsUndecodable after Encoding.utf8.codec := by
    refine addsUndecodable_append (by decide +kernel) (fun location entry hmem ↦ ?_) _
    obtain ⟨rfl, rfl⟩ := Prod.mk.inj (List.mem_singleton.1 hmem)
    exact .inr ⟨by decide +kernel, _, rfl, .malformed, by decide +kernel⟩
  have hbefore : before.IsTree := by decide +kernel
  have hafter : after.IsTree := by decide +kernel
  have hroot : before.locate root = .ok ["d"] := by decide +kernel
  have hdirectory : before.entry? ["d"] = some .directory := by decide +kernel
  have hreach : before.IsWithinReach root ["d"] := by
    have hshort : root.isTooLong = false :=
      (Path.pathFault?_eq_none_iff.1 (pathFault?_of_locate hroot)).2
    refine (hbefore.isWithinReach_iff hdirectory).2 ⟨?_, ?_⟩
    · have hdirectories : before.directories root ["d"] = [(root, (["d"] : Location))] := by rfl
      rw [hdirectories]
      exact List.forall_mem_singleton.2 hshort
    · have hjava : before.javaEntries root ["d"] = [] := by rfl
      rw [hjava]
      exact List.forall_mem_nil _
  have hreach' : ¬after.IsWithinReach root ["d"] := by
    intro h
    have hshort : (root.below ["A.java"]).isTooLong = false :=
      h ["A.java"] (.file ⟨#[0xFF]⟩) (by decide +kernel) (.inr (by decide +kernel))
    have hlong : (root.below ["A.java"]).isTooLong = true := by decide +kernel
    rw [hshort] at hlong
    cases hlong
  obtain ⟨found, hfind, hfound⟩ := hbefore.exists_findSources hroot hdirectory hreach
    (Runtime.hasCodec_utf8 .standard) isReadable_utf8
  have hnone : found = [] := by
    refine List.eq_nil_iff_forall_not_mem.2 fun path hpath ↦ ?_
    obtain ⟨names, content, -, hentry, -⟩ := (hfound.mem_iff path).1 hpath
    rw [entry?_of_ne_nil (by simp), Registry.get?_eq_some_iff] at hentry
    cases List.mem_singleton.1 hentry
  subst hnone
  exact ⟨hbefore, hafter, hadds, hroot, hdirectory, hfind,
    hafter.findSources_of_not_isWithinReach (hadds.locate hroot) (hadds.kept _ _ hdirectory)
      hreach' _ _⟩

end EndpointStubs
