import SongSheet.EventSheet
import SongSheet.Proofs.Arrangement
import SongSheet.Proofs.Text.Cut
import SongSheet.Proofs.Text.Numeral
import SongSheet.Proofs.Traversal

/-!
# The presses of an event sheet

An event sheet holds one object to a key press. As data a press is a time, a layer and a key
(`Press`), and both ways between a press and its object are known: `Press.toJson` is what the writer
puts down, and of what it put down the reader takes the time, and later the key, without fail
(`timed_presses`, `checkKey_keyLabel`).

The reader gathers presses by time and sorts them. `chords_eq` says what comes out without saying
how: the times in order, each with the presses that have it.
-/

set_option autoImplicit false

namespace SongSheet.EventSheet

/-! ## 1. Labels -/

/-- A label names its key, whatever layer it is in. -/
theorem keyNumber?_keyLabel (isFirst : Bool) (key : Nat) :
    keyNumber? (keyLabel isFirst key) = some key := by
  have hdigits : (Text.takeDigits (Text.ofNat key)).1 = Text.ofNat key := by
    have htake : Text.takeDigits (Text.ofNat key ++ []) = (Text.ofNat key, []) :=
      Text.takeDigits_ofNat (by simp)
    rw [List.append_nil] at htake
    rw [htake]
  have hkey : keyNumber? (("Key" : Text) ++ Text.ofNat key) = some key := by
    have hopen : ("Key" : Text) ++ Text.ofNat key
        = .ofChar 'K' :: (("ey" : Text) ++ Text.ofNat key) := rfl
    rw [hopen, keyNumber?, ← hopen, Text.after?_append]
    simp [hdigits]
  cases isFirst with
  | true => exact hkey
  | false => exact hkey

theorem checkKey_keyLabel {isFirst : Bool} {key : Nat} (h : key < layout.keyCount) :
    checkKey (.string (keyLabel isFirst key)) = .ok key := by
  rw [checkKey, keyNumber?_keyLabel]
  exact if_pos h

/-! ## 2. Presses as data -/

/-- A key press: its time, whether it is the first of its chord, and the key. -/
structure Press where
  time : Int
  isFirst : Bool
  key : Nat

/-- What the writer puts down for a press. -/
def Press.toJson (p : Press) : Json := press p.time p.isFirst p.key

/-- The presses of one stroke, from the highest key down. -/
def strokePresses (time : Int) (keys : List Nat) : List Press :=
  match sortBy (fun a b => b ≤ a) keys with
  | [] => []
  | key :: others => ⟨time, true, key⟩ :: others.map fun other => ⟨time, false, other⟩

/-- The presses of strokes that follow each other from a time on. -/
def pressesOf (time : Int) : List Stroke → List Press
  | [] => []
  | s :: rest => strokePresses time s.keys ++ pressesOf (time + s.delay) rest

theorem chordPresses_eq (time : Int) (keys : List Nat) :
    chordPresses time keys = (strokePresses time keys).map Press.toJson := by
  rw [chordPresses, strokePresses]
  cases sortBy (fun a b => decide (b ≤ a)) keys with
  | nil => rfl
  | cons key others =>
    rw [List.map_cons, List.map_map]
    rfl

theorem presses_eq (time : Int) (strokes : List Stroke) :
    presses time strokes = (pressesOf time strokes).map Press.toJson := by
  induction strokes generalizing time with
  | nil => rfl
  | cons s strokes ih =>
    rw [presses, pressesOf, List.map_append, ih, chordPresses_eq]

theorem time_of_mem_strokePresses {time : Int} {keys : List Nat} {p : Press}
    (h : p ∈ strokePresses time keys) : p.time = time := by
  rw [strokePresses] at h
  cases hsort : sortBy (fun a b => decide (b ≤ a)) keys with
  | nil =>
    rw [hsort] at h
    cases h
  | cons key others =>
    rw [hsort] at h
    rcases List.mem_cons.mp h with rfl | h
    · rfl
    · obtain ⟨other, -, rfl⟩ := List.mem_map.mp h
      rfl

/-- A stroke presses all of its keys. -/
theorem strokePresses_perm (time : Int) (keys : List Nat) :
    ((strokePresses time keys).map (·.key)).Perm keys := by
  have hsort : (strokePresses time keys).map (·.key) = sortBy (fun a b => decide (b ≤ a)) keys := by
    rw [strokePresses]
    cases sortBy (fun a b => decide (b ≤ a)) keys with
    | nil => rfl
    | cons key others => simp [Function.comp_def]
  rw [hsort]
  exact sortBy_perm _ keys

theorem strokePresses_ne_nil (time : Int) {keys : List Nat} (h : keys ≠ []) :
    strokePresses time keys ≠ [] := by
  intro hnil
  have hperm := strokePresses_perm time keys
  rw [hnil, List.map_nil, List.nil_perm] at hperm
  exact h hperm

/-! ## 3. Presses read back -/

/-- The fields of the object of a press. -/
def Press.fields (p : Press) : List (Text × Json) :=
  [("time", .int p.time), ("key", .string (keyLabel p.isFirst p.key))]

theorem pressFields_presses (ps : List Press) :
    pressFields (.array (ps.map Press.toJson)) = .ok (ps.map Press.fields) :=
  mapM_map_eq_pure fun _ _ => rfl

theorem checkTime_int {time : Int} (h : 0 ≤ time) : checkTime (.int time) = .ok time :=
  if_neg (Int.not_lt.mpr h)

/-- The reader finds the time and the label of every press. -/
theorem timed_presses {ps : List Press} (h : ∀ p ∈ ps, 0 ≤ p.time) :
    ((ps.map Press.fields).mapM fun fields => do
      return (← checkTime (Json.field "time" fields), Json.field "key" fields))
      = .ok (ps.map fun p => (p.time, Json.string (keyLabel p.isFirst p.key))) := by
  refine mapM_map_eq_pure fun p hp => ?_
  show (do
    let time ← checkTime (.int p.time)
    return (time, Json.string (keyLabel p.isFirst p.key)) : Except SheetError (Int × Json)) = _
  rw [checkTime_int (h p hp)]
  rfl

/-! ## 4. Chords -/

/-- Times in order, each once. -/
def moments (times : List Int) : List Int := sortBy (fun a b => a ≤ b) times.eraseDups

theorem mem_moments {times : List Int} {time : Int} : time ∈ moments times ↔ time ∈ times :=
  mem_sortBy.trans List.mem_eraseDups

theorem pairwise_moments (times : List Int) : (moments times).Pairwise (· < ·) := by
  have hsorted : (moments times).Pairwise (· ≤ ·) := by
    refine (pairwise_sortBy ?_ ?_ times.eraseDups).imp of_decide_eq_true
    · intro a b
      rw [decide_eq_true_iff, decide_eq_true_iff]
      omega
    · intro a b c
      rw [decide_eq_true_iff, decide_eq_true_iff, decide_eq_true_iff]
      omega
  have honce : (moments times).Nodup :=
    (sortBy_perm _ _).nodup_iff.mpr (nodup_eraseDups times)
  refine (hsorted.and honce).imp ?_
  rintro a b ⟨hle, hne⟩
  omega

/-- **The chords of presses**: the times in order, each with the presses that have it. -/
theorem chords_eq (presses : List (Int × Json)) :
    chords presses = (moments (presses.map (·.1))).map fun time =>
      (time, (presses.filter (·.1 == time)).map (·.2)) := by
  rw [chords, gatherBy, sortBy_map, List.map_map]
  rfl

end SongSheet.EventSheet
