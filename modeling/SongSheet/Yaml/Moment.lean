import SongSheet.Text.Digit
import SongSheet.Yaml.Error

/-!
# Dates and times

A moment is a day, and maybe a time on it, which may say how far from Greenwich it is. The days are
those of the Gregorian calendar in the years 1 to 9999.
-/

set_option autoImplicit false

namespace SongSheet.Yaml

/-- A day. -/
structure Date where
  year : Nat
  month : Nat
  day : Nat
  deriving DecidableEq, Repr

/-- A time on a day. -/
structure Time where
  hour : Nat
  minute : Nat
  second : Nat
  microsecond : Nat
  /-- How many minutes it is ahead of Greenwich, if it says so. -/
  offset : Option Int
  deriving DecidableEq, Repr

/-- A day, and maybe a time on it. -/
structure Moment where
  date : Date
  time : Option Time
  deriving DecidableEq, Repr

/-- The years that have a day in February more. -/
def isLeap (year : Nat) : Bool := (year % 4 = 0 && year % 100 ≠ 0) || year % 400 = 0

/-- How many days a month has. -/
def monthDays (year month : Nat) : Nat :=
  if month = 2 then if isLeap year then 29 else 28
  else if month = 4 ∨ month = 6 ∨ month = 9 ∨ month = 11 then 30
  else 31

/-- There is such a day. -/
def Date.isValid (d : Date) : Bool :=
  1 ≤ d.year && d.year ≤ 9999 && 1 ≤ d.month && d.month ≤ 12 && 1 ≤ d.day
    && d.day ≤ monthDays d.year d.month

/-- There is such a time, less than a day from Greenwich. -/
def Time.isValid (t : Time) : Bool :=
  t.hour < 24 && t.minute < 60 && t.second < 60 && t.offset.all (·.natAbs < 24 * 60)

/-- There is such a moment. -/
def Moment.isValid (m : Moment) : Bool := m.date.isValid && m.time.all Time.isValid

/-! ## Reading -/

namespace Moment

/-- A number of at least `least` digits of ASCII and at most `most`, and the rest. -/
def digits? (least most : Nat) (t : Text) : Option (Nat × Text) :=
  let digits := (t.take most).takeWhile (·.between '0' '9')
  if digits.length < least then none else some (Text.readNat digits, t.drop digits.length)

/-- What follows a sign. -/
def sign? (sign : Char) : Text → Option Text
  | c :: t => if c = sign then some t else none
  | [] => none

/-- A text without spaces and tabulators in front. -/
def dropBlanks (t : Text) : Text := t.dropWhile fun (c : CodePoint) => c = ' ' || c = '\t'

/-- How far from Greenwich the end of a time says that it is. -/
def offset? (t : Text) : Option (Option Int) :=
  match dropBlanks t with
  | [] => if t.isEmpty then some none else none
  | c :: rest =>
    if c = 'Z' then if rest.isEmpty then some (some 0) else none
    else if c = '+' ∨ c = '-' then do
      let (hours, rest) ← digits? 1 2 rest
      let minutes ←
        match sign? ':' rest with
        | none => if rest.isEmpty then some 0 else none
        | some rest =>
          match digits? 2 2 rest with
          | some (minutes, []) => some minutes
          | _ => none
      let offset : Int := (hours * 60 + minutes : Nat)
      return some (if c = '-' then -offset else offset)
    else none

/-- The millionths of a second that digits behind a point write; more than six of them do not count.
-/
def microseconds (digits : Text) : Nat :=
  let digits := digits.take 6
  Text.readNat digits * Nat.pow 10 (6 - digits.length)

/-- The time that a text writes. -/
def time? (t : Text) : Option Time := do
  let (hour, t) ← digits? 1 2 t
  let (minute, t) ← digits? 2 2 (← sign? ':' t)
  let (second, t) ← digits? 2 2 (← sign? ':' t)
  let (fraction, t) :=
    match sign? '.' t with
    | some t => t.span (·.between '0' '9')
    | none => ([], t)
  return { hour, minute, second, microsecond := microseconds fraction, offset := ← offset? t }

/-- What follows the sign or the blanks between a day and a time. -/
def behindDay? (t : Text) : Option Text :=
  match t with
  | c :: rest =>
    if c = 'T' ∨ c = 't' then some rest
    else if c = ' ' ∨ c = '\t' then some (dropBlanks t)
    else none
  | [] => none

/-- The moment that a text writes, whether or not there is such a moment. -/
def ofText? (t : Text) : Option Moment := do
  let (year, rest) ← digits? 4 4 t
  let (month, rest) ← digits? 1 2 (← sign? '-' rest)
  let (day, rest) ← digits? 1 2 (← sign? '-' rest)
  let time ← if rest.isEmpty then some none else (time? (← behindDay? rest)).map some
  return ⟨⟨year, month, day⟩, time⟩

/-- A plain scalar is taken for a moment. A day alone has two digits for its month and its day. -/
def isForm (t : Text) : Bool :=
  (ofText? t).any fun m => m.time.isSome || t.length = 10

/-- The moment that a scalar is worth. -/
def ofScalar (t : Text) : Except Error Moment :=
  match ofText? (if t.getLast? = some ('\n' : CodePoint) then t.dropLast else t) with
  | none => .error .dateForm
  | some m => if m.isValid then .ok m else .error .dateRange

/-! ## Showing -/

/-- A number with zeros in front up to a width. -/
def padded (width n : Nat) : Text :=
  let digits := Text.ofNat n
  List.replicate (width - digits.length) ('0' : CodePoint) ++ digits

/-- How far from Greenwich a time is, as it is shown. -/
def showOffset (offset : Int) : Text :=
  (if offset < 0 then '-' else '+' : CodePoint) :: padded 2 (offset.natAbs / 60)
    ++ (":" : Text) ++ padded 2 (offset.natAbs % 60)

/-- A moment as it is shown. -/
def display (m : Moment) : Text :=
  let day := Text.join "-" [padded 4 m.date.year, padded 2 m.date.month, padded 2 m.date.day]
  match m.time with
  | none => day
  | some t =>
    let fraction : Text :=
      if t.microsecond = 0 then [] else ("." : Text) ++ padded 6 t.microsecond
    day ++ (" " : Text) ++ Text.join ":" [padded 2 t.hour, padded 2 t.minute, padded 2 t.second]
      ++ fraction ++ (t.offset.map showOffset).getD []

end Moment

end SongSheet.Yaml
