import EndpointStubs.Text.Loose

/-!
# Control sequences

An escape character and an opening bracket begin a control sequence, which tells a terminal how
to show a text. Parameters follow, from the digits to the question mark, then intermediate
characters, from the blank to the slash, and one final character, from the at sign to the tilde.
Control sequences are left out of what is printed, since it is not printed on a terminal.
-/

namespace EndpointStubs.Text

/-- The code point is a character from the first to the last one given. -/
def isBetween (first last : Char) : CodePoint → Bool
  | .char c => first ≤ c && c ≤ last
  | .surrogate _ => false

/-- What is left behind the parameters and the intermediate characters of a control sequence. -/
def finalPart (text : LooseText) : LooseText :=
  (text.dropWhile (isBetween '0' '?')).dropWhile (isBetween ' ' '/')

theorem length_finalPart_le (text : LooseText) : (finalPart text).length ≤ text.length :=
  ((List.dropWhile_suffix _).trans (List.dropWhile_suffix _)).length_le

/-- The text behind the control sequence at its front, if there is one. -/
def afterControlSequence? : LooseText → Option LooseText
  | .char '\x1B' :: .char '[' :: rest =>
    match finalPart rest with
    | point :: after => if isBetween '@' '~' point then some after else none
    | [] => none
  | _ => none

theorem length_of_afterControlSequence? {text after : LooseText}
    (h : afterControlSequence? text = some after) : after.length + 3 ≤ text.length := by
  fun_cases afterControlSequence? text with
  | case1 rest point tail hrest hpoint =>
    rw [afterControlSequence?, hrest] at h
    simp only [hpoint, if_true, Option.some.injEq] at h
    have hle := length_finalPart_le rest
    rw [hrest, h] at hle
    simpa using hle
  | case2 rest point tail hrest hpoint =>
    rw [afterControlSequence?, hrest] at h
    simp [hpoint] at h
  | case3 rest hrest => simp [afterControlSequence?, hrest] at h
  | case4 => simp_all [afterControlSequence?]

def withoutControlSequences : LooseText → LooseText
  | [] => []
  | point :: rest =>
    match _h : afterControlSequence? (point :: rest) with
    | some after => withoutControlSequences after
    | none => point :: withoutControlSequences rest
termination_by text => text.length
decreasing_by
  · have := length_of_afterControlSequence? _h
    simp only [List.length_cons] at this ⊢
    omega
  · simp

end EndpointStubs.Text
