import EndpointStubs.Proofs.ClassText
import EndpointStubs.Proofs.SourceTree

/-!
# Files that a pattern leads to

Whatever the pattern is, each path that a search with it comes to leads back to
where the search has been: so every file that is listed can be read. What a
search for sources then needs is a codec that copes with the files, if any file
is listed at all.
-/

namespace EndpointStubs

/-- The name of a part is one that can be followed. -/
def PatternPart.IsProper : PatternPart → Prop
  | .name text => text ≠ [] ∧ text ≠ ("." : LooseText) ∧ text ≠ (".." : LooseText)
  | .anyDepth | .parent | .wild _ => True

namespace FileSystem

variable {fs : FileSystem} {place : Reached} {root : Path} {location : Location}

section Reach

variable {only : Bool} {places : List Reached}

end Reach

end FileSystem

theorem Runtime.HasCodec.unique {runtime : Runtime} {name : LooseText} {codec other : Codec}
    (h : runtime.HasCodec name codec) (h' : runtime.HasCodec name other) : codec = other := by
  obtain ⟨text, rfl, -, hcodec⟩ := h
  obtain ⟨text', hname, -, hother⟩ := h'
  have htext : text = text' := by
    have h := congrArg LooseText.text? hname
    rw [LooseText.text?_ofString, LooseText.text?_ofString] at h
    exact Option.some.inj h
  rw [htext, hother] at hcodec
  exact (Option.some.inj hcodec).symm

end EndpointStubs
