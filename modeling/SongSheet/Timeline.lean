import SongSheet.Arrangement
import SongSheet.Placement
import SongSheet.Text.Blank

/-!
# Timelines

What the lyre player plays: key presses and the times between them, in milliseconds.

* `{C2}` presses a key. A name of four characters, `{C2D2}`, is the semitone between two keys.
* `<200>` holds the keys for 200 ms and waits 200 ms.
* `(200)` holds the keys for 200 ms without waiting.
* `300` waits 300 ms.

A timeline is read into items by a machine with one step per code point (`State.step`), the items
are put on the clock as presses, and the presses at one moment become a beat, with a rest after it
when the keys are released early. The shortest beat sets the unit and the tempo.
-/

set_option autoImplicit false

namespace SongSheet.Timeline

/-! ## Key names -/

/-- The pitch of a key by its letter and digit: the names run from C in the player's own octaves,
and A and B are counted with the octave above. -/
def wholeKey? (letter digit : CodePoint) : Option Int :=
  if letter.between 'A' 'G' then
    digit.asciiDigit?.map fun number =>
      let degree : Int := ((letter.val : Int) - 67) % 7
      let octave : Int := (number : Int) - (if degree < 5 then 3 else 4)
      Pitch.ofDegree degree + octave * 12
  else none

/-- The pitch of a key by its name. -/
def keyName? : Text → Option Int
  | [letter, digit] => wholeKey? letter digit
  | [letter, digit, letter', digit'] => do
    let lower ← wholeKey? letter digit
    let upper ← wholeKey? letter' digit'
    if lower + 1 = upper - 1 then return lower + 1 else none
  | _ => none

/-! ## Items -/

/-- What a timeline is made of. -/
inductive Item where
  | key (pitch : Int)
  /-- Hold the keys; `waits` says that the clock goes on by as much. -/
  | hold (time : Nat) (waits : Bool)
  | wait (time : Nat)
  deriving DecidableEq, Repr

/-- Where the reading of a timeline stands. -/
inductive State where
  /-- Between items; `held` says that a hold may follow, as the last item was a key. -/
  | between (held : Bool)
  /-- In a name, with what was read of it. -/
  | name (soFar : Text)
  /-- In a hold, with its number so far. -/
  | hold (waits : Bool) (time : Nat)
  /-- In a bare number. -/
  | wait (time : Nat)
  deriving DecidableEq, Repr

namespace State

/-- A step from between items. -/
def begin (held : Bool) (c : CodePoint) : Option State :=
  if c.isBlank then some (.between held)
  else if c = '{' then some (.name [])
  else if c = '<' then if held then some (.hold true 0) else none
  else if c = '(' then if held then some (.hold false 0) else none
  else c.asciiDigit?.map .wait

/-- The item that a code point completes, if it does, and the state after it; nothing where the code
point cannot stand. -/
def step : State → CodePoint → Option (Option Item × State)
  | .between held, c => (begin held c).map fun next => (none, next)
  | .name soFar, c =>
    if c = '}' then (keyName? soFar).map fun pitch => (some (.key pitch), .between true)
    else if c.between 'A' 'G' || c.between '0' '9' then some (none, .name (soFar ++ [c]))
    else none
  | .hold waits time, c =>
    if c = (if waits then '>' else ')') then
      if time = 0 then none else some (some (.hold time waits), .between false)
    else c.asciiDigit?.map fun d => (none, .hold waits (time * 10 + d))
  | .wait time, c =>
    match c.asciiDigit? with
    | some d => some (none, .wait (time * 10 + d))
    | none => (begin false c).map fun next => (some (.wait time), next)

/-- The last item of a timeline that ends in a state; nothing where it cannot end. -/
def finish : State → Option (List Item)
  | .between _ => some []
  | .wait time => some [.wait time]
  | .name _ | .hold .. => none

end State

/-- The items of a timeline from a state on, or how many code points were left where it breaks off.
A timeline that ends inside an item breaks off at its last code point. -/
def itemsFrom (state : State) : Text → Except Nat (List Item)
  | [] =>
    match state.finish with
    | some items => .ok items
    | none => .error 1
  | c :: t =>
    match state.step c with
    | none => .error (t.length + 1)
    | some (item, next) => (itemsFrom next t).map (item.toList ++ ·)

/-- The items of a timeline. -/
def items (t : Text) : Except SheetError (List Item) :=
  match itemsFrom (.between false) t with
  | .ok items => .ok items
  | .error left => .error (.timelineForm (t.length - left))

/-! ## The clock -/

/-- Keys pressed at a moment, how long they are held, and how long until the next press. -/
structure Press where
  start : Nat
  keys : List Int := []
  wait : Nat := 0
  hold : Nat := 0
  deriving DecidableEq, Repr

/-- The presses of items, from one that is going on. A press without keys or time is nothing, unless
it is the last. -/
def pressesFrom (clock : Nat) (current : Press) : List Item → List Press
  | [] => [current]
  | .key pitch :: rest =>
    let next := pressesFrom clock { start := clock, keys := [pitch] } rest
    if current.keys.isEmpty ∧ current.wait = 0 then next else current :: next
  | .hold time waits :: rest =>
    let wait := if waits then time else 0
    pressesFrom (clock + wait)
      { current with hold := current.hold + time, wait := current.wait + wait } rest
  | .wait time :: rest =>
    pressesFrom (clock + time) { current with wait := current.wait + time } rest

/-- The presses of a timeline. -/
def presses (items : List Item) : List Press := pressesFrom 0 { start := 0 } items

/-! ## Beats -/

/-- Keys that sound for a time, or a rest. -/
structure Span where
  time : Nat
  keys : List Int
  deriving DecidableEq, Repr

/-- The presses at one moment as beats: a chord that is released before the next press is followed
by a rest. -/
def spans (group : List Press) : List Span :=
  let keys := group.flatMap (·.keys)
  let wait := (group.map (·.wait)).foldl max 0
  let hold := (group.map (·.hold)).foldl max 0
  if !keys.isEmpty ∧ 0 < hold ∧ hold < wait then [⟨hold, keys⟩, ⟨wait - hold, []⟩]
  else [⟨wait, keys⟩]

/-- The beats of presses in milliseconds. Presses come in the order of their starts, so the beats
follow each other as they stand. -/
def timedBeats (presses : List Press) : List Span :=
  (gatherBy (·.start) presses).flatMap fun (_, group) => spans group

/-- A span as a beat of a unit. One without time is the last of its timeline and gets four units. -/
def Span.toBeat (unit : Nat) (unit_ne_zero : unit ≠ 0) (s : Span) : Beat :=
  { rate := ⟨if s.time = 0 then unit * 4 else s.time, unit, by omega⟩, tones := s.keys.eraseDups }

/-- The score of timed beats. -/
def ofSpans (name : Text) (timed : List Span) : Except SheetError Score :=
  match h : ((timed.map (·.time)).filter (0 < ·)).min? with
  | none => .error .timelineEmpty
  | some unit => do
    let bpm ← Score.checkBpm (.int (Score.msPerMinute / unit))
    have unit_ne_zero : unit ≠ 0 := by
      have := (List.mem_filter.mp (List.min?_mem h)).2
      simp only [decide_eq_true_eq] at this
      omega
    return { name := .string name, bpm, beats := timed.map (Span.toBeat unit unit_ne_zero) }

/-- The only version of the player's timelines. -/
def version : Int := 2

/-- The score of a timeline. -/
def read (name content : Text) (version : Int) : Except SheetError Score := do
  if version ≠ Timeline.version then .error (.timelineVersion version)
  else ofSpans name (timedBeats (presses (← items content)))

/-! ## Writing -/

/-- The text of a stroke: a rest is a bare number; keys with a delay hold for it, and keys without
one sound together with the next. -/
def strokeText (labels : List Text) (s : Stroke) : Text :=
  let keys := s.keys.flatMap fun key => labels.getD key []
  if s.keys.isEmpty then keys ++ Text.ofInt s.delay ++ (" " : Text)
  else if s.delay = 0 then keys
  else keys ++ Text.enclose '<' '>' (Text.ofInt s.delay)

/-- The timeline of strokes on labelled keys. -/
def write (labels : List Text) (strokes : List Stroke) : Text :=
  strokes.flatMap (strokeText labels)

/-- The names of the player's keys, from low to high. -/
def keyNames : List Text :=
  ["C2", "D2", "E2", "F2", "G2", "A3", "B3", "C3", "D3", "E3", "F3", "G3", "A4", "B4", "C4", "D4",
    "E4", "F4", "G4", "A5", "B5"]

/-- The keys of the player. -/
def playerLayout : KeyLayout :=
  { keys := keyNames.map fun name => .string (Text.enclose '{' '}' name), keyOffset := -7 }

end SongSheet.Timeline
