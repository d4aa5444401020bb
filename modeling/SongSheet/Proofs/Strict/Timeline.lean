import SongSheet.Proofs.Strict.Operation
import SongSheet.Proofs.Timeline.Beats
import SongSheet.Proofs.Timeline.Grammar

/-!
# The strict reader of timelines

A cursor walks along the content. Of a bare number it keeps where it began, and the number is asked
for where it ends; the times of a moment are compared once it is known that there is one, and a
minute is divided by a time that lasts. **The strict reader does what the reader does**
(`Timeline.readStrictly_eq`).
-/

set_option autoImplicit false

namespace SongSheet.Timeline

open Strict

/-! ## 1. Key names -/

/-- The pitch of a key by its letter and digit. -/
def wholeKeyStrictly (name : Text) : Except Fault (Option Int) := do
  let letter ← item name 0
  let digit ← item name 1
  if letter.between 'A' 'G' && digit.between '0' '9' then
    let degree := ((letter.val : Int) - 67) % 7
    let octave := ((← number [digit] : Nat) : Int) - 4
    let natural ← pitchOfDegree degree
    return some (natural + (if degree < 5 then octave + 1 else octave) * 12)
  else return none

/-- The pitch of a key by its name. -/
def keyNameStrictly (name : Text) : Except Fault (Option Int) :=
  if name.length = 2 then wholeKeyStrictly name
  else if name.length = 4 then do
    let lower ← wholeKeyStrictly (name.take 2)
    let upper ← wholeKeyStrictly (name.drop 2)
    match lower, upper with
    | some lower, some upper => return if lower + 1 = upper - 1 then some (lower + 1) else none
    | _, _ => return none
  else return none

theorem wholeKeyStrictly_eq (letter digit : CodePoint) :
    wholeKeyStrictly [letter, digit] = .ok (wholeKey? letter digit) := by
  have hletter : item [letter, digit] 0 = .ok letter := rfl
  have hdigit : item [letter, digit] 1 = .ok digit := rfl
  rw [wholeKeyStrictly, hletter, ok_bind, hdigit, ok_bind, wholeKey?]
  by_cases hname : letter.between 'A' 'G' = true
  · by_cases hnumber : digit.between '0' '9' = true
    · have hvalue : digit.asciiDigit? = some (digit.val - 48) :=
        CodePoint.asciiDigit?_of_between hnumber
      rw [if_pos (by rw [hname, hnumber, Bool.and_self]), number_of_between hnumber, ok_bind,
        pitchOfDegree_eq, ok_bind, if_pos hname, hvalue]
      refine congrArg (fun pitch => Except.ok (some pitch)) (congrArg _ ?_)
      split <;> omega
    · have hnone : digit.asciiDigit? = none := if_neg hnumber
      rw [eq_false_of_ne_true hnumber, Bool.and_false, if_neg Bool.false_ne_true, hnone]
      split <;> rfl
  · rw [eq_false_of_ne_true hname, Bool.false_and, if_neg Bool.false_ne_true,
      if_neg Bool.false_ne_true]
    rfl

/-- A name is looked up in the length that it has. -/
theorem keyNameStrictly_eq (name : Text) : keyNameStrictly name = .ok (keyName? name) := by
  match name with
  | [] | [_] | [_, _, _] | _ :: _ :: _ :: _ :: _ :: _ => rfl
  | [letter, digit] => exact wholeKeyStrictly_eq letter digit
  | [letter, digit, letter', digit'] =>
    show (wholeKeyStrictly [letter, digit] >>= fun lower =>
      wholeKeyStrictly [letter', digit'] >>= fun upper => _) = _
    rw [wholeKeyStrictly_eq, ok_bind, wholeKeyStrictly_eq, ok_bind, keyName?]
    cases wholeKey? letter digit with
    | none => rfl
    | some lower =>
      cases wholeKey? letter' digit' with
      | none => rfl
      | some upper => rfl

/-! ## 2. The cursor -/

/-- Where the reading stands: as in `State`, but of a bare number the place where it began. -/
inductive Cursor where
  | between (held : Bool)
  | name (soFar : Text)
  | hold (waits : Bool) (time : Nat)
  | wait (start : Nat)

/-- The code points of a text from a place to another. -/
def slice (t : Text) (start finish : Nat) : Text := (t.drop start).take (finish - start)

/-- A step from between items. -/
def Cursor.begin (held : Bool) (i : Nat) (c : CodePoint) : Option Cursor :=
  if c.isBlank then some (.between held)
  else if c = '{' then some (.name [])
  else if c = '<' then if held then some (.hold true 0) else none
  else if c = '(' then if held then some (.hold false 0) else none
  else if c.between '0' '9' then some (.wait i)
  else none

/-- The item that the code point at a place completes, if it does, and where the reading stands
then; nothing where the code point cannot stand. -/
def Cursor.step (t : Text) (i : Nat) (c : CodePoint) :
    Cursor → Except Fault (Option (Option Item × Cursor))
  | .between held => return (begin held i c).map fun next => (none, next)
  | .name soFar =>
    if c = '}' then do
      let pitch ← keyNameStrictly soFar
      return pitch.map fun pitch => (some (.key pitch), .between true)
    else if c.between 'A' 'G' || c.between '0' '9' then return some (none, .name (soFar ++ [c]))
    else return none
  | .hold waits time =>
    if c = (if waits then '>' else ')') then
      return if time = 0 then none else some (some (.hold time waits), .between false)
    else if c.between '0' '9' then do
      let digit ← number [c]
      return some (none, .hold waits (time * 10 + digit))
    else return none
  | .wait start =>
    if c.between '0' '9' then return some (none, .wait start)
    else do
      let time ← number (slice t start i)
      return (begin false i c).map fun next => (some (.wait time), next)

/-- The last item of a text that ends with the cursor, which nothing is wrong with but that it ends
too early. -/
def Cursor.finish (t : Text) : Cursor → Except Fault (List Item)
  | .between _ => return []
  | .wait start => do
    let time ← number (slice t start t.length)
    return [.wait time]
  | .name _ | .hold .. => refuse (.timelineForm (t.length - 1))

/-- The items of a text from a place on. -/
def itemsStrictly (t : Text) (i : Nat) (cursor : Cursor) : Except Fault (List Item) :=
  if _h : i < t.length then do
    let c ← item t i
    match ← cursor.step t i c with
    | none => refuse (.timelineForm i)
    | some (completed, next) => (itemsStrictly t (i + 1) next).map (completed.toList ++ ·)
  else cursor.finish t
termination_by t.length - i

/-- A cursor stands for a state: a bare number that it is in is a numeral so far. -/
inductive Cursor.StandsFor (t : Text) (i : Nat) : Cursor → State → Prop
  | between (held : Bool) : StandsFor t i (.between held) (.between held)
  | name (soFar : Text) : StandsFor t i (.name soFar) (.name soFar)
  | hold (waits : Bool) (time : Nat) : StandsFor t i (.hold waits time) (.hold waits time)
  | wait {start : Nat} (begun : start < i) (digits : Token.AreDigits (slice t start i)) :
    StandsFor t i (.wait start) (.wait (Text.readNat (slice t start i)))

section Slice

variable {t : Text} {start i : Nat}

theorem slice_succ (hbegun : start ≤ i) (h : i < t.length) :
    slice t start (i + 1) = slice t start i ++ [t[i]] := by
  have hlt : i - start < (t.drop start).length := by
    rw [List.length_drop]
    omega
  have hnext : i + 1 - start = i - start + 1 := by omega
  have hplace : start + (i - start) = i := by omega
  rw [slice, slice, hnext, List.take_succ_eq_append_getElem hlt, List.getElem_drop]
  simp only [hplace]

/-- A numeral so far has a number. -/
theorem number_slice (hbegun : start < i) (hle : i ≤ t.length)
    (h : Token.AreDigits (slice t start i)) :
    number (slice t start i) = .ok (Text.readNat (slice t start i)) := by
  refine number_of_digits ?_ fun d hd => CodePoint.isDigit_of_between (h d hd)
  rw [slice, ne_eq, List.take_eq_nil_iff, List.drop_eq_nil_iff]
  omega

end Slice

namespace Cursor

variable {t : Text} {i : Nat} {cursor : Cursor} {state : State}

/-- What a step of a cursor has to do with the step of its state: both complete the same item and
stand for each other again, or neither goes on. -/
inductive StepsAs (t : Text) (i : Nat) :
    Except Fault (Option (Option Item × Cursor)) → Option (Option Item × State) → Prop
  | on {completed : Option Item} {cursor : Cursor} {state : State}
      (h : StandsFor t (i + 1) cursor state) :
    StepsAs t i (.ok (some (completed, cursor))) (some (completed, state))
  | off : StepsAs t i (.ok none) none

/-- A digit begins a numeral. -/
theorem standsFor_digit (hlt : i < t.length) (h : t[i].between '0' '9' = true) :
    StandsFor t (i + 1) (.wait i) (.wait (t[i].val - 48)) := by
  have hslice : slice t i (i + 1) = [t[i]] := by
    rw [slice_succ (Nat.le_refl i) hlt, slice, Nat.sub_self, List.take_zero, List.nil_append]
  have hnumber : Text.readNat [t[i]] = t[i].val - 48 := by
    rw [← List.nil_append [t[i]], Text.readNat_concat h]
    exact Nat.zero_add _
  rw [← hnumber, ← hslice]
  exact .wait (Nat.lt_succ_self i) (by rw [hslice]; simpa [Token.AreDigits] using h)

/-- A step from between items, with what was completed before it. -/
theorem stepsAs_begin (hlt : i < t.length) (held : Bool) (completed : Option Item) :
    StepsAs t i (.ok ((begin held i t[i]).map fun next => (completed, next)))
      ((State.begin held t[i]).map fun next => (completed, next)) := by
  rw [begin, State.begin]
  split_ifs with hblank hname hwaits hheld hholds hheld' hdigit
  · exact .on (.between held)
  · exact .on (.name [])
  · exact .on (.hold true 0)
  · exact .off
  · exact .on (.hold false 0)
  · exact .off
  · rw [CodePoint.asciiDigit?_of_between hdigit]
    exact .on (standsFor_digit hlt hdigit)
  · rw [CodePoint.asciiDigit?, if_neg hdigit]
    exact .off

/-- **A cursor steps as the state that it stands for.** -/
theorem stepsAs_step (hlt : i < t.length) (h : StandsFor t i cursor state) :
    StepsAs t i (cursor.step t i t[i]) (state.step t[i]) := by
  cases h with
  | between held => exact stepsAs_begin hlt held none
  | name soFar =>
    rw [step, State.step]
    split_ifs with hclose hpart
    · rw [keyNameStrictly_eq, ok_bind]
      cases keyName? soFar with
      | none => exact .off
      | some pitch => exact .on (.between true)
    · exact .on (.name _)
    · exact .off
  | hold waits time =>
    rw [step, State.step]
    by_cases hclose : t[i] = .ofChar (if waits then '>' else ')')
    · rw [if_pos hclose, if_pos hclose]
      split_ifs with hzero
      · exact .off
      · exact .on (.between false)
    · rw [if_neg hclose, if_neg hclose]
      by_cases hdigit : t[i].between '0' '9' = true
      · rw [if_pos hdigit, number_of_between hdigit, CodePoint.asciiDigit?_of_between hdigit]
        exact .on (.hold waits _)
      · rw [if_neg hdigit, CodePoint.asciiDigit?, if_neg hdigit]
        exact .off
  | @wait start hbegun hdigits =>
    rw [step, State.step]
    -- The numeral grows by a digit, or it has ended and its number is asked for.
    by_cases hdigit : t[i].between '0' '9' = true
    · have hslice := slice_succ hbegun.le hlt
      have hgrown : Token.AreDigits (slice t start (i + 1)) := by
        rw [hslice]
        intro d hd
        rcases List.mem_append.mp hd with hd | hd
        · exact hdigits d hd
        · rwa [List.mem_singleton.mp hd]
      rw [if_pos hdigit, CodePoint.asciiDigit?_of_between hdigit]
      dsimp only
      rw [← Text.readNat_concat hdigit, ← hslice]
      exact .on (.wait (by omega) hgrown)
    · rw [if_neg hdigit, CodePoint.asciiDigit?, if_neg hdigit, number_slice hbegun hlt.le hdigits]
      exact stepsAs_begin hlt false _

end Cursor

/-- Where a text breaks off. -/
def breaksOff (t : Text) (left : Nat) : SheetError := .timelineForm (t.length - left)

/-- **The cursor reads what is still to come.** -/
theorem itemsStrictly_eq {t : Text} {i : Nat} {cursor : Cursor} {state : State}
    (h : cursor.StandsFor t i state) (hle : i ≤ t.length) :
    itemsStrictly t i cursor = refusing ((itemsFrom state (t.drop i)).mapError (breaksOff t)) := by
  rw [itemsStrictly]
  split
  case isFalse hend =>
    -- A text that ends too early is at fault in its last code point.
    obtain rfl : i = t.length := by omega
    rw [List.drop_length, itemsFrom]
    cases h with
    | between held => rfl
    | name soFar => rfl
    | hold waits time => rfl
    | wait hbegun hdigits =>
      rw [Cursor.finish, number_slice hbegun hle hdigits]
      rfl
  case isTrue hlt =>
    rw [item_of_lt hlt, ok_bind, List.drop_eq_getElem_cons hlt, itemsFrom]
    generalize hcursor : cursor.step t i t[i] = stepped
    generalize hstate : state.step t[i] = steppedState
    have hsteps : Cursor.StepsAs t i stepped steppedState := by
      rw [← hcursor, ← hstate]
      exact Cursor.stepsAs_step hlt h
    cases hsteps with
    | @on completed cursor state hnext =>
      rw [ok_bind]
      dsimp only
      rw [itemsStrictly_eq hnext hlt]
      cases itemsFrom state (t.drop (i + 1)) <;> rfl
    | off =>
      have hplace : breaksOff t ((t.drop (i + 1)).length + 1) = .timelineForm i := by
        rw [breaksOff, List.length_drop]
        congr 1
        omega
      rw [ok_bind]
      dsimp only
      rw [← hplace]
      rfl
termination_by t.length - i

/-! ## 3. Beats -/

/-- The presses at one moment as beats. -/
def spansStrictly (group : List Press) : Except Fault (List Span) := do
  let keys := group.flatMap (·.keys)
  let wait ← greatest (group.map (·.wait))
  let hold ← greatest (group.map (·.hold))
  return if !keys.isEmpty ∧ 0 < hold ∧ hold < wait then [⟨hold, keys⟩, ⟨wait - hold, []⟩]
    else [⟨wait, keys⟩]

/-- The beats of presses in milliseconds. -/
def timedBeatsStrictly (presses : List Press) : Except Fault (List Span) := do
  let parts ← (gatherBy (·.start) presses).mapM fun (_, group) => spansStrictly group
  return parts.flatten

/-- A span as a beat of a unit. -/
def spanToBeatStrictly (unit : Nat) (s : Span) : Except Fault Beat := do
  let rate ← refusing (Rate.make (if s.time = 0 then unit * 4 else s.time) unit)
  return { rate, tones := s.keys.eraseDups }

/-- The score of timed beats. -/
def ofSpansStrictly (name : Text) (timed : List Span) : Except Fault Score := do
  let times := (timed.map (·.time)).filter (0 < ·)
  if times.isEmpty then refuse .timelineEmpty
  else
    let unit ← least times
    let tempo ← quotient 60000 unit
    let bpm ← refusing (Score.checkBpm (.int tempo))
    let beats ← timed.mapM (spanToBeatStrictly unit)
    return { name := .string name, bpm, beats }

/-- The score of a timeline, step by step. -/
def readStrictly (name content : Text) (version : Int) : Except Fault Score :=
  if version ≠ Timeline.version then refuse (.timelineVersion version)
  else do
    let contents ← itemsStrictly content 0 (.between false)
    let timed ← timedBeatsStrictly (presses contents)
    ofSpansStrictly name timed

/-- Of some numbers there is a greatest. -/
theorem greatest_eq {ns : List Nat} (h : ns ≠ []) : greatest ns = .ok (ns.foldl max 0) := by
  obtain ⟨n, ns, rfl⟩ := List.exists_cons_of_ne_nil h
  rw [greatest, List.max?_cons', List.foldl_cons, Nat.zero_max]

theorem spansStrictly_eq {group : List Press} (h : group ≠ []) :
    spansStrictly group = .ok (spans group) := by
  rw [spansStrictly, greatest_eq (by simpa using h), ok_bind, greatest_eq (by simpa using h),
    ok_bind]
  rfl

theorem timedBeatsStrictly_eq (presses : List Press) :
    timedBeatsStrictly presses = .ok (timedBeats presses) := by
  have hparts : (gatherBy (·.start) presses).mapM (fun (_, group) => spansStrictly group)
      = .ok ((gatherBy (·.start) presses).map fun (_, group) => spans group) :=
    mapM_ok fun entry hentry => spansStrictly_eq (ne_nil_of_mem_gatherBy hentry)
  rw [timedBeatsStrictly, hparts, ok_bind, timedBeats, List.flatMap_def]
  rfl

theorem spanToBeatStrictly_eq {unit : Nat} (hne : unit ≠ 0) (s : Span) :
    spanToBeatStrictly unit s = .ok (s.toBeat unit hne) := by
  have hden : (unit : Int) ≠ 0 := by omega
  rw [spanToBeatStrictly, Rate.make, dif_neg hden]
  rfl

/-- **What times make, step by step.** -/
theorem ofSpansStrictly_eq (name : Text) (timed : List Span) :
    ofSpansStrictly name timed = refusing (ofSpans name timed) := by
  rw [ofSpans]
  split
  case h_1 hnone =>
    rw [ofSpansStrictly, List.min?_eq_none_iff.mp hnone]
    rfl
  case h_2 unit hunit =>
    -- There is a time that lasts, so a minute can be divided by the least of them.
    have hpos := (isShortest_iff.mp hunit).pos
    have hsome : ¬((timed.map (·.time)).filter (0 < ·)).isEmpty = true := by
      intro hempty
      rw [List.isEmpty_iff.mp hempty] at hunit
      cases hunit
    have hbeats : timed.mapM (spanToBeatStrictly unit)
        = .ok (timed.map (Span.toBeat unit hpos.ne')) :=
      mapM_ok fun s _ => spanToBeatStrictly_eq hpos.ne' s
    have hleast : least ((timed.map (·.time)).filter (0 < ·)) = .ok unit := by rw [least, hunit]
    rw [ofSpansStrictly, if_neg hsome, hleast, ok_bind, quotient_of_pos hpos, ok_bind, hbeats,
      refusing_bind]
    rfl

/-- **The strict reader of timelines does what the reader does.** -/
theorem readStrictly_eq (name content : Text) (version : Int) :
    readStrictly name content version = refusing (read name content version) := by
  rw [readStrictly, read]
  split_ifs with hversion
  · rfl
  · rw [itemsStrictly_eq (.between false) (Nat.zero_le _), List.drop_zero, refusing_bind]
    have hitems : refusing ((itemsFrom (.between false) content).mapError (breaksOff content))
        = refusing (items content) := by
      rw [items]
      cases itemsFrom (.between false) content <;> rfl
    rw [hitems]
    refine congrArg _ (funext fun contents => ?_)
    rw [timedBeatsStrictly_eq, ok_bind, ofSpansStrictly_eq]

end SongSheet.Timeline
