import EndpointStubs.Text.Digit
import EndpointStubs.Yaml.Cursor
import EndpointStubs.Yaml.Error

/-!
# Dates and times

A date, and maybe a time of day with a fraction of a second and a zone behind
it. What is written as a time need not exist; that is a fault of its own.
-/

namespace EndpointStubs.Yaml

structure TimeOfDay where
  hour : Nat
  minute : Nat
  second : Nat
  /-- How far the zone is ahead, in minutes. -/
  zone : Int
  deriving DecidableEq, Repr

/-- A date with the time of day, if there is one. -/
structure Moment where
  year : Nat
  month : Nat
  day : Nat
  time : Option TimeOfDay
  deriving DecidableEq, Repr

/-- Between `least` and `most` digits, as many as there are, and the text after them. -/
def digits? (least most : Nat) (text : List Char) : Option (Nat × List Char) :=
  let digits := (text.take most).takeWhile Char.isDigit
  if digits.length < least then none
  else some (Text.number 10 digits, text.drop digits.length)

def char? (c : Char) : List Char → Option (List Char)
  | [] => none
  | d :: rest => if d = c then some rest else none

/-- The zone at the end of a time: universal time, or hours and maybe minutes. -/
def zone? : List Char → Option Int
  | ['Z'] => some 0
  | sign :: rest => do
    let direction ← if sign = '+' then some 1 else if sign = '-' then some (-1) else none
    let (hours, rest) ← digits? 1 2 rest
    match rest with
    | [] => return direction * (60 * hours : Nat)
    | _ =>
      let (minutes, rest) ← digits? 2 2 (← char? ':' rest)
      if rest.isEmpty then return direction * (60 * hours + minutes : Nat) else none
  | [] => none

def timeOfDay? (text : List Char) : Option TimeOfDay := do
  let (hour, rest) ← digits? 1 2 text
  let (minute, rest) ← digits? 2 2 (← char? ':' rest)
  let (second, rest) ← digits? 2 2 (← char? ':' rest)
  let rest :=
    match rest with
    | '.' :: fraction => fraction.dropWhile Char.isDigit
    | _ => rest
  let zone ← if rest.isEmpty then some 0 else zone? (rest.dropWhile isSpaceOrTab)
  return ⟨hour, minute, second, zone⟩

/-- A letter or blanks separate the time of day from the date. -/
def afterDate? : List Char → Option (List Char)
  | [] => none
  | c :: rest =>
    if c = 'T' ∨ c = 't' then some rest
    else if isSpaceOrTab c then some (rest.dropWhile isSpaceOrTab)
    else none

def moment? (text : List Char) : Option Moment := do
  let (year, rest) ← digits? 4 4 text
  let (month, rest) ← digits? 1 2 (← char? '-' rest)
  let (day, rest) ← digits? 1 2 (← char? '-' rest)
  match rest with
  | [] => return ⟨year, month, day, none⟩
  | _ => return ⟨year, month, day, some (← timeOfDay? (← afterDate? rest))⟩

def daysIn (year month : Nat) : Nat :=
  if month = 2 then
    if year % 4 = 0 ∧ (year % 100 ≠ 0 ∨ year % 400 = 0) then 29 else 28
  else if month = 4 ∨ month = 6 ∨ month = 9 ∨ month = 11 then 30
  else 31

/-- The first part that is out of its range, from the year on. -/
def Moment.fault? (m : Moment) : Option TimePart :=
  if m.year = 0 then some .year
  else if m.month = 0 ∨ 12 < m.month then some .month
  else if m.day = 0 ∨ daysIn m.year m.month < m.day then some .day
  else
    m.time.bind fun t ↦
      if 23 < t.hour then some .hour
      else if 59 < t.minute then some .minute
      else if 59 < t.second then some .second
      else none

/-- The moment exists. Its zone is looked at first. -/
def Moment.check (m : Moment) : Except Error Unit :=
  match m.time.filter fun t ↦ 1440 ≤ t.zone.natAbs with
  | some t => .error (.zoneTooFar t.zone)
  | none =>
    match m.fault? with
    | some part => .error (.outOfRange part)
    | none => .ok ()

end EndpointStubs.Yaml
