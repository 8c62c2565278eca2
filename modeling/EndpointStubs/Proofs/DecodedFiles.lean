import EndpointStubs.Files.Search

/-!
# Files and their texts

What is read of a file whose content is there: what its codec makes of it. A file
is worth scanning or not for every codec that copes with it, whether it is a text
or none; and if it is one, scanning it fails if its types are too deep within each
other, and only then.
-/

namespace EndpointStubs

/-- In this runtime the name stands for the codec. -/
def Runtime.HasCodec (runtime : Runtime) (name : LooseText) (codec : Codec) : Prop :=
  ∃ text : String, name = text ∧ text.contains '\x00' = false ∧ runtime.codec? text = some codec

theorem Runtime.hasCodec_utf8 (runtime : Runtime) :
    runtime.HasCodec "utf-8" Encoding.utf8.codec :=
  ⟨"utf-8", rfl, by simp, runtime.codec?_utf8⟩

namespace Codec

/-- A file with this content is worth scanning. -/
def isWorthScanning (codec : Codec) (content : ByteArray) : Bool :=
  match codec.decode content with
  | .error _ => true
  | .ok text => Java.mentionsController (unifyLineEnds text)

/-- The codec makes a text of the content, or says that it is none. -/
def Copes (codec : Codec) (content : ByteArray) : Prop :=
  codec.decode content ≠ .error .refused

/-- The types of the text are at most so deep within each other, if the content is a text. -/
def NestsWithin (codec : Codec) (room : Nat) (content : ByteArray) : Prop :=
  ∀ text, codec.decode content = .ok text →
    (Java.Outline.ofText (unifyLineEnds text)).nesting ≤ room

end Codec

section Reading

variable {runtime : Runtime} {fs : FileSystem} {path : Path} {name : LooseText} {codec : Codec}
  {content : ByteArray}

theorem FileSystem.readText_of_hasCodec (hcodec : runtime.HasCodec name codec)
    (hread : fs.read path = .ok content) :
    fs.readText runtime path name =
      match codec.decode content with
      | .error .malformed => .error .undecodable
      | .error .refused => .error .refused
      | .ok text => .ok (unifyLineEnds text) := by
  obtain ⟨text, rfl, hnull, hknown⟩ := hcodec
  rw [readText, LooseText.text?_ofString]
  cases hdecode : codec.decode content with
  | error e =>
    cases e <;> simp only [hnull, hread, hknown, decodeText, hdecode, Bool.false_eq_true, if_false]
  | ok text => simp only [hnull, hread, hknown, decodeText, hdecode, Bool.false_eq_true, if_false]

theorem isCandidate_of_copes (hcodec : runtime.HasCodec name codec)
    (hread : fs.read path = .ok content) (hcopes : codec.Copes content) :
    isCandidate runtime fs name path = .ok (codec.isWorthScanning content) := by
  rw [isCandidate, FileSystem.readText_of_hasCodec hcodec hread, Codec.isWorthScanning]
  cases hdecode : codec.decode content with
  | ok text => rfl
  | error e =>
    cases e with
    | malformed => rfl
    | refused => exact absurd hdecode hcopes

theorem isCandidate_of_not_copes (hcodec : runtime.HasCodec name codec)
    (hread : fs.read path = .ok content) (hcopes : ¬codec.Copes content) :
    isCandidate runtime fs name path = .error (.unreadable .refused) := by
  rw [isCandidate, FileSystem.readText_of_hasCodec hcodec hread, Classical.not_not.1 hcopes]
  rfl

/-- Scanning a file fails if the types of its text are too deep within each other, and not
otherwise. -/
theorem scanFile_cases (hcodec : runtime.HasCodec name codec)
    (hread : fs.read path = .ok content) (hcopes : codec.Copes content) :
    (codec.NestsWithin runtime.nesting content ∧
        ∃ scanned, scanFile runtime fs name path = .ok scanned) ∨
      ¬codec.NestsWithin runtime.nesting content ∧
        scanFile runtime fs name path = .error (.scan .tooDeep) := by
  rw [scanFile, FileSystem.readText_of_hasCodec hcodec hread, Codec.NestsWithin]
  cases hdecode : codec.decode content with
  | error e =>
    cases e with
    | malformed => exact .inl ⟨nofun, _, rfl⟩
    | refused => exact absurd hdecode hcopes
  | ok text =>
    simp only [scanWithin_eq, String.toList_ofList, Except.ok.injEq, forall_eq']
    by_cases hdeep : (Java.Outline.ofText (unifyLineEnds text)).nesting ≤ runtime.nesting
    · exact .inl ⟨hdeep, by rw [if_pos hdeep]; exact ⟨_, rfl⟩⟩
    · exact .inr ⟨hdeep, by rw [if_neg hdeep]⟩

end Reading

theorem unifyLineEnds_eq_self {text : List Char} (h : '\r' ∉ text) : unifyLineEnds text = text := by
  fun_induction unifyLineEnds text with
  | case1 => rfl
  | case2 => exact absurd List.mem_cons_self h
  | case3 => exact absurd List.mem_cons_self h
  | case4 c rest _ _ ih => rw [ih fun hmem ↦ h (List.mem_cons_of_mem _ hmem)]

theorem Encoding.decode_utf8_toUTF8 (text : String) :
    Encoding.utf8.decode text.toUTF8 = .ok text.toList := by
  rw [decode, utf8Chars?, String.fromUTF8?, String.toUTF8_eq_toByteArray,
    dif_pos text.isValidUTF8]
  rfl

theorem Encoding.decode_utf8_ne_refused (content : ByteArray) :
    Encoding.utf8.decode content ≠ .error .refused := by
  rw [decode]
  cases utf8Chars? content <;> simp [orMalformed]

theorem readText_toUTF8 (runtime : Runtime) {fs : FileSystem} {path : Path} {text : String}
    (hread : fs.read path = .ok text.toUTF8) :
    fs.readText runtime path "utf-8" = .ok (unifyLineEnds text.toList) := by
  rw [FileSystem.readText_of_hasCodec runtime.hasCodec_utf8 hread, Encoding.codec_decode,
    Encoding.decode_utf8_toUTF8]

end EndpointStubs
