import EndpointStubs.Proofs.RegistryGrouping
import EndpointStubs.Stub.Numbering
import Mathlib.Data.List.Chain

/-!
# The constants of stub methods

A constant is made of the characters of a method name, so that no blank, bracket
or comma in generated code can be taken for a part of it. Splitting a name into
words and putting it into upper case can make two names equal; it does not do so
for names in camel case, from which the name can be read back.
-/

namespace EndpointStubs

namespace Text

/-- The character does not come before the digits: it is no blank, quote, bracket or comma. -/
def isNameChar (c : Char) : Bool :=
  48 ≤ c.toNat

theorem isNameChar_iff {c : Char} : isNameChar c = true ↔ 48 ≤ c.toNat :=
  decide_eq_true_iff

theorem isUpper_iff {c : Char} : c.isUpper = true ↔ 65 ≤ c.toNat ∧ c.toNat ≤ 90 :=
  decide_eq_true_iff.trans (and_congr UInt32.le_iff_toNat_le UInt32.le_iff_toNat_le)

theorem isLower_iff {c : Char} : c.isLower = true ↔ 97 ≤ c.toNat ∧ c.toNat ≤ 122 :=
  Bool.and_eq_true_iff.trans (and_congr (decide_eq_true_iff.trans UInt32.le_iff_toNat_le)
    (decide_eq_true_iff.trans UInt32.le_iff_toNat_le))

theorem isDigit_iff {c : Char} : c.isDigit = true ↔ 48 ≤ c.toNat ∧ c.toNat ≤ 57 :=
  Bool.and_eq_true_iff.trans (and_congr (decide_eq_true_iff.trans UInt32.le_iff_toNat_le)
    (decide_eq_true_iff.trans UInt32.le_iff_toNat_le))

theorem isAlphanum_eq (c : Char) : c.isAlphanum = (c.isUpper || c.isLower || c.isDigit) := rfl

theorem toNat_of_isAlphanum {c : Char} (h : c.isAlphanum = true) :
    48 ≤ c.toNat ∧ c.toNat < 128 := by
  rw [isAlphanum_eq, Bool.or_eq_true, Bool.or_eq_true, isUpper_iff, isLower_iff, isDigit_iff] at h
  omega

theorem isNameChar_of_isWord {c : Char} (h : isWord c = true) : isNameChar c = true := by
  rw [isNameChar_iff]
  unfold isWord at h
  split at h
  · rw [Bool.or_eq_true, beq_iff_eq] at h
    rcases h with h | rfl
    · exact (toNat_of_isAlphanum h).1
    · decide
  · omega

/-- The class has all characters that can come into a name when a method is turned into generated
code: capitals, digits, underscores, and whatever is not ASCII. -/
structure HoldsNames (q : Char → Prop) : Prop where
  capital : ∀ c, c.isUpper = true → q c
  digit : ∀ c, c.isDigit = true → q c
  underscore : q '_'
  wide : ∀ c : Char, 128 ≤ c.toNat → q c

theorem holdsNames_isNameChar : HoldsNames fun c ↦ isNameChar c = true where
  capital c h := by
    have halphanum : c.isAlphanum = true := by
      rw [isAlphanum_eq, h, Bool.true_or, Bool.true_or]
    exact isNameChar_iff.2 (toNat_of_isAlphanum halphanum).1
  digit c h := by
    have halphanum : c.isAlphanum = true := by
      rw [isAlphanum_eq, h, Bool.or_true]
    exact isNameChar_iff.2 (toNat_of_isAlphanum halphanum).1
  underscore := by decide
  wide c h := isNameChar_iff.2 (Nat.le_trans (by decide) h)

/-- The number is that of a capital or of a character that is not ASCII. -/
def IsImage (n : Nat) : Prop :=
  65 ≤ n ∧ n ≤ 90 ∨ 128 ≤ n

instance (n : Nat) : Decidable (IsImage n) :=
  inferInstanceAs (Decidable (_ ∧ _ ∨ _))

/-- All images of the run are such characters. -/
def CaseRun.KeepsNames (run : CaseRun) : Prop :=
  (65 ≤ run.image ∧ run.image + (run.last - run.first) ≤ 90 ∨ 128 ≤ run.image) ∧
    (run.image + (run.last - run.first) < 0xD800 ∨
      0xDFFF < run.image ∧ run.image + (run.last - run.first) < 0x110000)

instance (run : CaseRun) : Decidable run.KeepsNames :=
  inferInstanceAs (Decidable ((_ ∧ _ ∨ _) ∧ (_ ∨ _ ∧ _)))

theorem keepsNames_uppercaseRuns : ∀ run ∈ uppercaseRuns, run.KeepsNames := by
  decide +kernel

theorem keepsNames_uppercaseExpansions :
    ∀ entry ∈ uppercaseExpansions, ∀ n ∈ entry.2, IsImage n ∧ n < 0xD800 := by
  decide +kernel

namespace HoldsNames

variable {q : Char → Prop} (hq : HoldsNames q)

include hq

theorem of_isImage {n : Nat} (h : IsImage n) (hvalid : n.isValidChar) : q (Char.ofNat n) := by
  have hnumber : (Char.ofNat n).val.toNat = n := by
    rw [Char.ofNat, dif_pos hvalid]
    rfl
  rcases h with h | hwide
  · apply hq.capital
    rw [isUpper_iff, Char.toNat, hnumber]
    exact h
  · apply hq.wide
    rwa [Char.toNat, hnumber]

theorem of_image? {run : CaseRun} (h : run.KeepsNames) {n image : Nat}
    (himage : run.image? n = some image) : q (Char.ofNat image) := by
  rw [CaseRun.image?, Option.ite_none_right_eq_some, Option.some.injEq] at himage
  obtain ⟨⟨hfirst, hlast, -⟩, rfl⟩ := himage
  obtain ⟨hrange, hvalid⟩ := h
  refine hq.of_isImage ?_ ?_
  · rw [IsImage]
    omega
  · rw [Nat.isValidChar]
    omega

theorem toUpper {c : Char} (h : q c) : q c.toUpper := by
  unfold Char.toUpper
  split
  · rename_i hlower
    have hlow : 97 ≤ c.val.toNat := UInt32.le_iff_toNat_le.1 hlower.1
    have hhigh : c.val.toNat ≤ 122 := UInt32.le_iff_toNat_le.1 hlower.2
    have hshift : ('A'.val - 'a'.val).toNat = 4294967264 := rfl
    apply hq.capital
    rw [isUpper_iff, Char.toNat, UInt32.toNat_add, hshift]
    omega
  · exact h

theorem of_mem_upperChar {c d : Char} (h : q c) (hd : d ∈ upperChar c) : q d := by
  unfold upperChar at hd
  split at hd
  · rw [List.mem_singleton.1 hd]
    exact hq.toUpper h
  · unfold mapChar at hd
    split at hd
    · rename_i n hn
      obtain ⟨run, hrun, himage⟩ := List.exists_of_findSome?_eq_some hn
      rw [List.mem_singleton.1 hd]
      exact hq.of_image? (keepsNames_uppercaseRuns run hrun) himage
    · split at hd
      · rename_i ns hns
        obtain ⟨n, hn, rfl⟩ := List.mem_map.1 hd
        obtain ⟨himage, hvalid⟩ := keepsNames_uppercaseExpansions _ (mem_of_lookup_eq_some hns)
          n hn
        exact hq.of_isImage himage (.inl hvalid)
      · rw [List.mem_singleton.1 hd]
        exact h

end HoldsNames

end Text

theorem toDigits_isDigit (n : Nat) : ∀ c ∈ (toString n).toList, c.isDigit = true := by
  intro c hc
  rw [Nat.toString_eq_ofList_toDigits, String.toList_ofList] at hc
  exact Nat.isDigit_of_mem_toDigits (by decide) (by decide) hc

theorem mem_separateWords {text : List Char} {c : Char} (hc : c ∈ separateWords text) :
    c ∈ text ∨ c = '_' := by
  fun_induction separateWords text with
  | case1 a b rest h ih =>
    rcases List.mem_cons.1 hc with rfl | hc
    · exact .inl List.mem_cons_self
    · rcases List.mem_cons.1 hc with rfl | hc
      · exact .inr rfl
      · exact (ih hc).imp_left (List.mem_cons_of_mem _)
  | case2 a b rest h ih =>
    rcases List.mem_cons.1 hc with rfl | hc
    · exact .inl List.mem_cons_self
    · exact (ih hc).imp_left (List.mem_cons_of_mem _)
  | case3 text => exact .inl hc

namespace Text.HoldsNames

variable {q : Char → Prop} (hq : HoldsNames q) {name : String} (h : ∀ c ∈ name.toList, q c)

include hq h

theorem forall_mem_capitalize : ∀ c ∈ (capitalize name).toList, q c := by
  intro c hc
  unfold capitalize at hc
  split at hc
  · cases hc
  · rename_i first rest hname
    rw [hname] at h
    rw [String.toList_ofList, List.mem_append] at hc
    rcases hc with hc | hc
    · exact hq.of_mem_upperChar (h first List.mem_cons_self) hc
    · exact h c (List.mem_cons_of_mem _ hc)

theorem forall_mem_numberedName (n : Nat) : ∀ c ∈ (numberedName name n).toList, q c := by
  intro c hc
  cases n with
  | zero => exact h c hc
  | succ n =>
    rw [numberedName, String.toList_append, List.mem_append] at hc
    rcases hc with hc | hc
    · exact h c hc
    · exact hq.digit c (toDigits_isDigit _ c hc)

theorem forall_mem_constantName : ∀ c ∈ (constantName name).toList, q c := by
  intro c hc
  rw [constantName, String.toList_ofList, List.mem_append] at hc
  rcases hc with hc | hc
  · obtain ⟨a, ha, hca⟩ := List.mem_flatMap.1 hc
    refine hq.of_mem_upperChar ?_ hca
    rcases mem_separateWords ha with ha | rfl
    · exact h a ha
    · exact hq.underscore
  · rcases List.mem_cons.1 hc with rfl | hc
    · exact hq.underscore
    · refine hq.capital c ?_
      have hall : "URL".toList.all Char.isUpper = true := by decide
      exact List.all_eq_true.1 hall c hc

end Text.HoldsNames

/-! ## Names in camel case -/

/-- ASCII letters and digits with no lower case letter in front and no two capitals in a row, as in
`GetItemById`. -/
structure IsCamelCase (name : List Char) : Prop where
  alphanum : ∀ c ∈ name, c.isAlphanum = true
  front : ∀ c ∈ name.head?, c.isLower = false
  capitals : name.IsChain fun a b ↦ ¬(a.isUpper = true ∧ b.isUpper = true)

/-- Puts the words after the front of a constant together again. -/
def joinWords : List Char → List Char
  | '_' :: c :: rest => c :: joinWords rest
  | c :: rest => c.toLower :: joinWords rest
  | [] => []

/-- Upper case leaves a capital as it is, and can be undone for the other characters. -/
theorem toUpper_of_isAlphanum {c : Char} (h : c.isAlphanum = true) :
    if c.isUpper then c.toUpper = c else c.toUpper ≠ '_' ∧ c.toUpper.toLower = c := by
  have hall : ∀ n < 128, (Char.ofNat n).isAlphanum = true →
      if (Char.ofNat n).isUpper then (Char.ofNat n).toUpper = Char.ofNat n
      else (Char.ofNat n).toUpper ≠ '_' ∧ (Char.ofNat n).toUpper.toLower = Char.ofNat n := by
    decide +kernel
  have hc := hall c.toNat (Text.toNat_of_isAlphanum h).2
  rw [Char.ofNat_toNat] at hc
  exact hc h

theorem joinWords_cons_of_ne {c : Char} (h : c ≠ '_') (rest : List Char) :
    joinWords (c :: rest) = c.toLower :: joinWords rest := by
  rw [joinWords]
  exact fun _ _ hc ↦ absurd hc h

/-- After its front, a name in camel case is read back from its words in upper case. -/
theorem exists_separateWords_eq {a : Char} {rest : List Char}
    (halphanum : ∀ c ∈ a :: rest, c.isAlphanum = true)
    (hcapitals : (a :: rest).IsChain fun a b ↦ ¬(a.isUpper = true ∧ b.isUpper = true)) :
    ∃ words, separateWords (a :: rest) = a :: words ∧ joinWords (Text.upper words) = rest := by
  induction rest generalizing a with
  | nil => exact ⟨[], by rw [separateWords]; simp, rfl⟩
  | cons b rest ih =>
    obtain ⟨hpair, hchain⟩ := List.isChain_cons_cons.1 hcapitals
    obtain ⟨words, hwords, hjoin⟩ :=
      ih (fun c hc ↦ halphanum c (List.mem_cons_of_mem _ hc)) hchain
    have ha := halphanum a List.mem_cons_self
    have hb := halphanum b (List.mem_cons_of_mem _ List.mem_cons_self)
    have hupper : Text.upperChar b = [b.toUpper] := if_pos (Text.toNat_of_isAlphanum hb).2
    have hchar := toUpper_of_isAlphanum hb
    rw [separateWords, hwords]
    cases hcapital : b.isUpper with
    | true =>
      -- The character before a capital is none itself, so that a new word starts here.
      rw [hcapital, if_pos rfl] at hchar
      have hlower : (a.isLower || a.isDigit) = true := by
        have hnot : a.isUpper = false := Bool.eq_false_iff.2 fun hup ↦ hpair ⟨hup, hcapital⟩
        rwa [Text.isAlphanum_eq, hnot, Bool.false_or] at ha
      refine ⟨'_' :: b :: words, by rw [hlower]; rfl, ?_⟩
      rw [Text.upper, List.flatMap_cons, List.flatMap_cons, hupper, hchar]
      exact congrArg (b :: ·) hjoin
    | false =>
      rw [hcapital, if_neg Bool.false_ne_true] at hchar
      refine ⟨b :: words, by rw [Bool.and_false]; rfl, ?_⟩
      rw [Text.upper, List.flatMap_cons, hupper, List.singleton_append,
        joinWords_cons_of_ne hchar.1, hchar.2]
      exact congrArg (b :: ·) hjoin

/-- The front is kept, so that the whole name is read back. -/
theorem IsCamelCase.exists_upper_eq {a : Char} {rest : List Char} (h : IsCamelCase (a :: rest)) :
    ∃ words, Text.upper (separateWords (a :: rest)) = a :: words ∧ joinWords words = rest := by
  obtain ⟨words, hwords, hjoin⟩ := exists_separateWords_eq h.alphanum h.capitals
  have ha := h.alphanum a List.mem_cons_self
  have hlower : a.isLower = false := h.front a rfl
  have hsame : a.toUpper = a := by
    refine dif_neg fun hrange ↦ Bool.eq_false_iff.1 hlower ?_
    unfold Char.isLower
    rw [Bool.and_eq_true, decide_eq_true_eq, decide_eq_true_eq]
    exact hrange
  refine ⟨Text.upper words, ?_, hjoin⟩
  rw [hwords, Text.upper, List.flatMap_cons, Text.upperChar,
    if_pos (Text.toNat_of_isAlphanum ha).2, hsame]
  rfl

theorem IsCamelCase.eq_of_upper_eq {name other : List Char} (hname : IsCamelCase name)
    (hother : IsCamelCase other)
    (h : Text.upper (separateWords name) = Text.upper (separateWords other)) : name = other := by
  cases name with
  | nil =>
    cases other with
    | nil => rfl
    | cons b rest =>
      obtain ⟨words, hupper, -⟩ := hother.exists_upper_eq
      rw [hupper] at h
      cases h
  | cons a rest =>
    obtain ⟨words, hupper, hjoin⟩ := hname.exists_upper_eq
    cases other with
    | nil =>
      rw [hupper] at h
      cases h
    | cons b rest' =>
      obtain ⟨words', hupper', hjoin'⟩ := hother.exists_upper_eq
      rw [hupper, hupper'] at h
      cases h
      rw [← hjoin, ← hjoin']

/-- Names in camel case that differ have different constants. -/
theorem constantName_injective_of_isCamelCase {name other : String}
    (hname : IsCamelCase name.toList) (hother : IsCamelCase other.toList)
    (h : constantName name = constantName other) : name = other := by
  have hlists := congrArg String.toList h
  simp only [constantName, String.toList_ofList] at hlists
  exact String.toList_inj.1 (hname.eq_of_upper_eq hother (List.append_cancel_right hlists))

theorem isCamelCase_numberedName {name : String} (h : IsCamelCase name.toList) (n : Nat) :
    IsCamelCase (numberedName name n).toList := by
  cases n with
  | zero => exact h
  | succ n =>
    have hdigits := toDigits_isDigit (n + 2)
    have hlower {c : Char} (hc : c.isDigit = true) : c.isLower = false ∧ c.isUpper = false := by
      rw [Text.isDigit_iff] at hc
      rw [Bool.eq_false_iff, Bool.eq_false_iff, ne_eq, ne_eq, Text.isLower_iff, Text.isUpper_iff]
      omega
    rw [numberedName, String.toList_append]
    refine ⟨?_, ?_, ?_⟩
    · intro c hc
      rcases List.mem_append.1 hc with hc | hc
      · exact h.alphanum c hc
      · rw [Char.isAlphanum, hdigits c hc, Bool.or_true]
    · intro c hc
      rw [List.head?_append] at hc
      cases hhead : name.toList.head? with
      | some first =>
        rw [hhead] at hc
        cases hc
        exact h.front c hhead
      | none =>
        rw [hhead, Option.none_or] at hc
        exact (hlower (hdigits c (List.mem_of_mem_head? hc))).1
    · refine List.isChain_append.2 ⟨h.capitals, ?_, ?_⟩
      · exact List.Pairwise.isChain (List.pairwise_of_forall_mem_list fun a ha b hb hup ↦ by
          rw [(hlower (hdigits a ha)).2] at hup
          exact Bool.false_ne_true hup.1)
      · intro a _ b hb hup
        rw [(hlower (hdigits b (List.mem_of_mem_head? hb))).2] at hup
        exact Bool.false_ne_true hup.2

end EndpointStubs
