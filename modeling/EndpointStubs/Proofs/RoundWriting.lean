import EndpointStubs.Command.Run
import EndpointStubs.Proofs.JoinedTexts
import Mathlib.Data.List.Induction

/-!
# Rounds that fail

A round with a writer folds all facts, normalizes, renders and writes the stub
classes, and renders and writes the base classes. So the base classes are
rendered when stub classes are on the disk already. A round may fail: the order
may be unknown, and a stub cannot always be rendered. It then fails before it
writes anything, as the base classes of a model can be rendered whenever its stub
classes can. Once a file is written only writing itself can fail: a directory
cannot be made or a file not be opened, the name is one that no file can have, or
the text cannot be encoded. Of such a failure it is said here only how far it got.
-/

namespace EndpointStubs

/-- Why a round failed: the order is unknown, or the files could not be generated. -/
inductive RoundError where
  | order (error : UnknownOrder)
  | generating (failure : Failure)
  deriving DecidableEq, Repr

/-- What a round leaves behind, and why it failed, if it did. -/
structure WrittenRound where
  fileSystem : FileSystem
  written : List Path
  failure : Option RoundError

def Writing.toRound (writing : Writing) : WrittenRound :=
  ⟨writing.fileSystem, writing.written, writing.failure.map (.generating ∘ .file)⟩

/-- The files to write for the classes with one suffix. -/
def Files.drafts (settings : Settings) (suffix : LooseText) (isLoose : Bool) (files : Files) :
    List Draft :=
  files.entries.map fun (name, text) ↦
    ⟨(Path.ofText settings.outputDirectory).join (.ofText (withSuffix name suffix)),
      if isLoose then none else some text⟩

def stubDrafts (settings : Settings) (stubs : Files) : List Draft :=
  stubs.drafts settings settings.stubSuffix settings.hasLooseSuffix

def baseDrafts (settings : Settings) (bases : Files) : List Draft :=
  bases.drafts settings settings.baseSuffix settings.baseSuffix.text?.isNone

/-- The part of a round that writes: the stub classes are on the disk before the base classes are
rendered. -/
def writeClasses (settings : Settings) (model : Model) (fs : FileSystem) : WrittenRound :=
  match model.stubFiles settings.suffixes with
  | .error e => ⟨fs, [], some (.generating (.stub e))⟩
  | .ok stubs =>
    let afterStubs := writeFiles ⟨fs, [], none⟩ (stubDrafts settings stubs)
    if afterStubs.failure.isSome then afterStubs.toRound
    else (writeFiles afterStubs (baseDrafts settings (model.baseFiles settings.suffixes))).toRound

/-- A round with a writer, step by step. -/
def writeRound (settings : Settings) (order : String) (facts : List Fact) (fs : FileSystem) :
    WrittenRound :=
  match VariableOrder.parse order with
  | .error e => ⟨fs, [], some (.order e)⟩
  | .ok order =>
    if facts.isEmpty then ⟨fs, [], none⟩ else writeClasses settings (roundModel order facts) fs

section WriteFiles

variable {writing : Writing}

theorem writeFiles_cons (draft : Draft) (rest : List Draft) :
    writeFiles writing (draft :: rest) =
      if (writeFile writing draft).failure.isSome then writeFile writing draft
      else writeFiles (writeFile writing draft) rest :=
  rfl

/-- Writing stops at the first file that cannot be written. -/
theorem writeFiles_append (h : writing.failure = none) (drafts more : List Draft) :
    writeFiles writing (drafts ++ more) =
      if (writeFiles writing drafts).failure.isSome then writeFiles writing drafts
      else writeFiles (writeFiles writing drafts) more := by
  induction drafts generalizing writing with
  | nil =>
    have hgoesOn : ¬(writeFiles writing []).failure.isSome := by simp [writeFiles, h]
    rw [if_neg hgoesOn]
    rfl
  | cons draft drafts ih =>
    rw [List.cons_append, writeFiles_cons, writeFiles_cons]
    by_cases hfailed : (writeFile writing draft).failure.isSome
    · rw [if_pos hfailed, if_pos hfailed, if_pos hfailed]
    · rw [if_neg hfailed, if_neg hfailed]
      exact ih (Option.not_isSome_iff_eq_none.1 hfailed)

end WriteFiles

/-! ## Why a file cannot be written -/

/-- Errors that the file system reports. The others come from a name that no file can have, or a
text that cannot be encoded. -/
def FileError.isReported : FileError → Bool
  | notFound | isDirectory | notDirectory | alreadyExists | tooLong => true
  | nullCharacter | unencodable => false

/-- A code point that the name of a file can hold: of the surrogates only those that a byte is read
as. -/
def CodePoint.IsNameable : CodePoint → Prop
  | char c => c ≠ '\x00'
  | surrogate n => 0x480 ≤ n.val ∧ n.val < 0x500

def Path.IsNameable (path : Path) : Prop :=
  ∀ point ∈ path.text, point.IsNameable

/-- A file can have the path and the text. -/
structure Draft.IsProper (draft : Draft) : Prop where
  path : draft.path.IsNameable
  text : draft.text.isSome

section Names

variable {text : LooseText}

/-- If a file can have a path, its directory can have the path that it has. -/
theorem Path.IsNameable.parent {path : Path} (h : path.IsNameable) : path.parent.IsNameable := by
  rw [IsNameable, Path.text] at h ⊢
  have hdot : ∀ point ∈ ("." : LooseText), point.IsNameable := by
    simp [LooseText.ofString, LooseText.ofChars, CodePoint.IsNameable]
  split
  · exact hdot
  · rename_i hparent
    split at h
    · rename_i hpath
      rw [Bool.and_eq_true, List.isEmpty_iff] at hpath
      refine absurd ?_ hparent
      rw [Path.parent, hpath.2]
      exact (Bool.and_true _).trans hpath.1
    · rw [List.forall_mem_append] at h ⊢
      refine ⟨h.1, forall_mem_intercalate ?_ fun name hname point hpoint ↦
        h.2 point (mem_intercalate_of_mem (List.dropLast_subset _ hname) hpoint)⟩
      simp [CodePoint.IsNameable]

end Names

namespace FileSystem

end FileSystem

/-- Rendering the base classes in between does not change what is written: all stub classes and
then all base classes, until a file cannot be written. -/
theorem writeClasses_eq {settings : Settings} {model : Model} {stubs : Files}
    (hstubs : model.stubFiles settings.suffixes = .ok stubs) (fs : FileSystem) :
    writeClasses settings model fs = (writeFiles ⟨fs, [], none⟩
      (stubDrafts settings stubs ++
        baseDrafts settings (model.baseFiles settings.suffixes))).toRound := by
  rw [writeClasses, hstubs, writeFiles_append rfl]
  simp only
  split <;> rfl

@[simp]
theorem Outcome.fileSystem_log (outcome : Outcome) (verbose : Bool)
    (diagnostics : List Diagnostic) :
    (outcome.log verbose diagnostics).fileSystem = outcome.fileSystem :=
  rfl

@[simp]
theorem Outcome.failure_log (outcome : Outcome) (verbose : Bool) (diagnostics : List Diagnostic) :
    (outcome.log verbose diagnostics).failure = outcome.failure :=
  rfl

/-- The command that generates files runs such a round. -/
theorem runGenerate_eq_writeRound (settings : Settings) (verbose : Bool) (order : VariableOrder)
    (facts : List Fact) {outcome : Outcome} (houtcome : outcome.failure = none) :
    let after := runGenerate settings verbose facts (roundModel order facts) outcome
    let round := writeRound settings order.label facts outcome.fileSystem
    after.fileSystem = round.fileSystem ∧ after.failure.map .generating = round.failure := by
  intro after round
  have horder : VariableOrder.parse order.label = .ok order := by
    rw [VariableOrder.parse, VariableOrder.ofLabel?_label]
  cases hempty : facts.isEmpty with
  | true =>
    have hgenerate : generate settings.suffixes facts (roundModel order facts) = .ok none := by
      rw [generate, hempty]
      rfl
    simp only [after, round, runGenerate, writeRound, horder, hgenerate, hempty, if_true]
    exact ⟨rfl, by simp [Outcome.print, writeFiles, houtcome]⟩
  | false =>
    cases hstubs : (roundModel order facts).stubFiles settings.suffixes with
    | error e =>
      have hgenerate : generate settings.suffixes facts (roundModel order facts) = .error e := by
        rw [generate, hempty, hstubs]
        rfl
      simp only [after, round, runGenerate, writeRound, horder, hgenerate, hempty, writeClasses,
        hstubs]
      exact ⟨rfl, rfl⟩
    | ok stubs =>
      have hgenerate : generate settings.suffixes facts (roundModel order facts) =
          .ok (some ⟨stubs, (roundModel order facts).baseFiles settings.suffixes⟩) := by
        rw [generate, hempty, hstubs]
        rfl
      have hdrafts : (Generated.mk stubs
          ((roundModel order facts).baseFiles settings.suffixes)).drafts settings =
          stubDrafts settings stubs ++
            baseDrafts settings ((roundModel order facts).baseFiles settings.suffixes) := rfl
      simp only [after, round, runGenerate, writeRound, horder, hgenerate, hempty,
        Bool.false_eq_true, if_false, writeClasses_eq hstubs, Option.map_some, Option.getD_some,
        hdrafts, Outcome.fileSystem_log]
      generalize writeFiles _ _ = writing
      cases hfailure : writing.failure with
      | none => exact ⟨rfl, by simp [Outcome.print, Writing.toRound, houtcome, hfailure]⟩
      | some e => exact ⟨rfl, by simp [Outcome.fail, Writing.toRound, hfailure]⟩

end EndpointStubs
