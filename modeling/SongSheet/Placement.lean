import SongSheet.KeyLayout
import SongSheet.Score

/-!
# Placing a score on keys

A score may use pitches that an instrument lacks, so it is transposed first: `transposition` finds
the smallest shift upwards that puts every pitch on a key, and failing that the smallest shift
downwards. Only shifts between the one that aligns the lowest pitches and the one that aligns the
highest can do, so these are the ones tried.

`place` then turns every beat into a stroke: the keys to press and the milliseconds until the next
stroke.
-/

set_option autoImplicit false

namespace SongSheet

/-- The keys to press for one beat, and the milliseconds until the next beat. -/
structure Stroke where
  keys : List Nat
  delay : Int
  deriving DecidableEq, Repr

/-- A score laid out on keys. -/
structure Placement where
  /-- What was added to every pitch. -/
  shift : Int
  strokes : List Stroke
  deriving DecidableEq, Repr

namespace Placement

/-- The integers from `low` to `high`, ends included. -/
def ascending (low high : Int) : List Int :=
  (List.range (high - low + 1).toNat).map fun (i : Nat) => low + i

/-- The shift that puts every pitch of a score on a key of a layout. -/
def transposition (score : Score) (layout : KeyLayout) : Except SheetError Int :=
  let keys := layout.pitches
  let sounding := score.pitches.eraseDups
  match keys.min?, keys.max?, sounding.min?, sounding.max? with
  | some lowKey, some highKey, some low, some high =>
    let least := lowKey - low
    let most := highKey - high
    let fits (shift : Int) : Bool := sounding.all fun pitch => keys.elem (pitch + shift)
    match (ascending (max 0 least) most).find? fits with
    | some shift => .ok shift
    | none =>
      match (ascending least (min (-1) most)).reverse.find? fits with
      | some shift => .ok shift
      | none => .error .missingKey
  | none, _, _, _ | _, none, _, _ => .error .missingKey
  | _, _, none, _ | _, _, _, none => .ok 0

/-- The milliseconds that a beat lasts, rounded down. -/
def delay (bpm : Int) (rate : Rate) : Int :=
  Int.fdiv (rate.num * Score.msPerMinute) (bpm * rate.den)

/-- The stroke of a beat after a shift. -/
def stroke (keys : List Int) (score : Score) (shift : Int) (beat : Beat) :
    Except SheetError Stroke := do
  let pressed ← beat.tones.mapM fun tone =>
    match keys.idxOf? (tone + score.keyNote + shift) with
    | some key => .ok key
    | none => .error .missingKey
  return ⟨pressed, delay score.bpm beat.rate⟩

/-- The score on the keys of a layout. -/
def place (score : Score) (layout : KeyLayout) : Except SheetError Placement := do
  if score.bpm ≤ 0 then .error .bpmRange
  else
    let shift ← transposition score layout
    let strokes ← score.beats.mapM (stroke layout.pitches score shift)
    return ⟨shift, strokes⟩

end Placement

end SongSheet
