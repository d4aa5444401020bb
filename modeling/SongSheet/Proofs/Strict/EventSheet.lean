import SongSheet.Proofs.EventSheet.Presses
import SongSheet.Proofs.Strict.Operation

/-!
# The strict reader of event sheets

Fields are asked of objects only, the number of a key is made of digits, and a chord is looked up
under a time that has one. **The strict reader does what the reader does**
(`EventSheet.readStrictly_eq`).
-/

set_option autoImplicit false

namespace SongSheet.EventSheet

open Strict

/-! ## 1. Keys -/

/-- The digits after the first `Key` that has any. -/
def keyDigits? : Text → Option Text
  | [] => none
  | c :: t =>
    match Text.after? "Key" (c :: t) with
    | some rest =>
      let digits := (Text.takeDigits rest).1
      if digits.isEmpty then keyDigits? t else some digits
    | none => keyDigits? t

/-- The key that a label names, by its number. -/
def checkKeyStrictly (label : Json) : Except Fault Nat :=
  match label with
  | .string t =>
    match keyDigits? t with
    | some digits => do
      let key ← number digits
      if key < layout.keyCount then .ok key else refuse (.eventKey label)
    | none => refuse (.eventKey label)
  | _ => refuse (.eventKey label)

/-- What stands behind a `Key` is a numeral, and its number is that of the key. -/
theorem keyNumber?_eq (t : Text) : keyNumber? t = (keyDigits? t).map Text.readNat
    ∧ ∀ digits, keyDigits? t = some digits → number digits = .ok (Text.readNat digits) := by
  induction t with
  | nil => exact ⟨rfl, nofun⟩
  | cons c t ih =>
    rw [keyNumber?, keyDigits?]
    cases Text.after? "Key" (c :: t) with
    | none => exact ih
    | some rest =>
      by_cases hempty : (Text.takeDigits rest).1.isEmpty = true
      · simp only [hempty, if_true]
        exact ih
      · simp only [if_neg hempty]
        refine ⟨rfl, fun digits hdigits => ?_⟩
        obtain rfl := Option.some.inj hdigits
        exact number_takeDigits hempty

theorem checkKeyStrictly_eq (label : Json) :
    checkKeyStrictly label = refusing (checkKey label) := by
  cases label with
  | string t =>
    obtain ⟨hnumber, hdigits⟩ := keyNumber?_eq t
    rw [checkKeyStrictly, checkKey]
    cases hkey : keyDigits? t with
    | none =>
      rw [hkey] at hnumber
      simp only [hnumber]
      rfl
    | some digits =>
      rw [hkey] at hnumber
      simp only [hnumber, Option.map_some, hdigits digits hkey, ok_bind]
      split <;> rfl
  | null | bool | int | float | array | object => rfl

/-! ## 2. Notes -/

/-- Whether a value has fields. -/
def isObject : Json → Bool
  | .object _ => true
  | _ => false

/-- The first sheet of a document, looked at once it is known that there is one. -/
def sheetFieldsStrictly (document : Json) : Except Fault (List (Text × Json)) :=
  match document with
  | .array sheets =>
    if sheets.isEmpty then refuse .eventNone
    else do
      let sheet ← item sheets 0
      if !isObject sheet then refuse .eventShape
      else
        let fields ← fieldsOf sheet
        if (Json.field "isEncrypted" fields).isSet then refuse .eventEncrypted else .ok fields
  | _ => refuse .eventShape

theorem sheetFieldsStrictly_eq (document : Json) :
    sheetFieldsStrictly document = refusing (sheetFields document) := by
  cases document with
  | array sheets =>
    cases sheets with
    | nil => rfl
    | cons sheet sheets =>
      cases sheet with
      | object fields =>
        show (if (Json.field "isEncrypted" fields).isSet then _ else _)
          = refusing (if _ then _ else _)
        split <;> rfl
      | null | bool | int | float | string | array => rfl
  | null | bool | int | float | string | object => rfl

/-- The presses of a sheet: objects, every one of them. -/
def notesStrictly (value : Json) : Except Fault (List Json) :=
  match value with
  | .array notes => if notes.all isObject then .ok notes else refuse .eventNote
  | _ => refuse .eventNotes

theorem notesStrictly_eq (value : Json) :
    notesStrictly value = refusing ((pressFields value).map (List.map .object)) := by
  cases value with
  | array notes =>
    induction notes with
    | nil => rfl
    | cons note notes ih =>
      cases note with
      | object fields =>
        have hstrict : notesStrictly (.array (.object fields :: notes))
            = (notesStrictly (.array notes)).map (.object fields :: ·) := by
          show (if notes.all isObject = true then _ else _)
            = Except.map _ (if notes.all isObject = true then _ else _)
          split <;> rfl
        have hplain : pressFields (.array (.object fields :: notes))
            = (pressFields (.array notes)).map (fields :: ·) := by
          rw [pressFields, List.mapM_cons]
          show (pressFields (.array notes)).bind _ = _
          cases pressFields (.array notes) <;> rfl
        rw [hstrict, ih, hplain]
        cases pressFields (.array notes) <;> rfl
      | null | bool | int | float | string | array => rfl
  | null | bool | int | float | string | object => rfl

/-- The notes of a sheet with their times. -/
def timedStrictly (notes : List Json) : Except Fault (List (Int × Json)) :=
  notes.mapM fun note => do
    let fields ← fieldsOf note
    let time ← refusing (checkTime (Json.field "time" fields))
    return (time, note)

/-- The chord at a time. -/
def chordStrictly (timed : List (Int × Json)) (time : Int) : Except Fault (Int × List Int) := do
  let chord ← entry (gatherBy (·.1) timed) time
  let tones ← chord.mapM fun (_, note) => do
    let fields ← fieldsOf note
    let key ← checkKeyStrictly (Json.field "key" fields)
    pitchOfDegree key
  return (time, tones)

/-- The score of an event sheet, step by step. -/
def readStrictly (t : Text) : Except Fault Score := do
  let document ← refusing ((Json.read t).mapError .eventJson)
  let fields ← sheetFieldsStrictly document
  let keyNote ← refusing (Score.checkPitchLevel (Json.field "pitchLevel" fields))
  let bpm ← refusing (Score.checkBpm (Json.field "bpm" fields))
  let notes ← notesStrictly (Json.field "songNotes" fields)
  let timed ← timedStrictly notes
  let times := sortBy (fun a b => a ≤ b) ((gatherBy (·.1) timed).map (·.1))
  let sounding ← times.mapM (chordStrictly timed)
  return {
    name := (Json.field "name" fields).orElse (.string "Unknown")
    author := (Json.field "author" fields).orElse (.string [])
    transcriber := (Json.field "transcribedBy" fields).orElse (.string [])
    keyNote
    bpm
    beats := beats bpm 0 [] sounding }

/-! ## 3. Chords -/

/-- A press with its time. -/
def timedPress (press : List (Text × Json)) : Except SheetError (Int × List (Text × Json)) :=
  (checkTime (Json.field "time" press)).map (·, press)

/-- The note of a press, with its time. -/
def noteOfPress (p : Int × List (Text × Json)) : Int × Json := (p.1, .object p.2)

/-- The label of a press, with its time. -/
def labelOfPress (p : Int × List (Text × Json)) : Int × Json := (p.1, Json.field "key" p.2)

theorem timedStrictly_eq (presses : List (List (Text × Json))) :
    timedStrictly (presses.map .object)
      = refusing ((presses.mapM timedPress).map (List.map noteOfPress)) := by
  rw [timedStrictly, List.mapM_map, ← mapM_map_right]
  refine mapM_refusing fun press _ => ?_
  show (refusing (checkTime (Json.field "time" press)) >>= _) = _
  rw [timedPress]
  cases checkTime (Json.field "time" press) <;> rfl

theorem mapM_labels (presses : List (List (Text × Json))) :
    (presses.mapM fun press => do
      return (← checkTime (Json.field "time" press), Json.field "key" press))
      = (presses.mapM timedPress).map (List.map labelOfPress) := by
  rw [← mapM_map_right]
  congr 1
  funext press
  rw [timedPress]
  cases checkTime (Json.field "time" press) <;> rfl

/-- A key that came has its items. -/
theorem entry_gatherBy {α κ : Type} [DecidableEq κ] {key : α → κ} {xs : List α} {k : κ}
    (h : k ∈ xs.map key) : entry (gatherBy key xs) k = .ok (xs.filter (key · == k)) := by
  have hfind : (xs.map key).eraseDups.find? (· = k) = some k := by
    cases hfind : (xs.map key).eraseDups.find? (· = k) with
    | none =>
      have hnone := List.find?_eq_none.mp hfind k (List.mem_eraseDups.mpr h)
      simp at hnone
    | some k' =>
      have hsame := List.find?_some hfind
      simp only [decide_eq_true_eq] at hsame
      rw [hsame]
  have hentry : (gatherBy key xs).find? (·.1 = k) = some (k, xs.filter (key · == k)) := by
    rw [gatherBy, List.find?_map]
    show ((xs.map key).eraseDups.find? (· = k)).map _ = _
    rw [hfind]
    rfl
  rw [entry, valueOf?, hentry]
  rfl

theorem chordStrictly_eq {timed : List (Int × List (Text × Json))} {time : Int}
    (h : time ∈ timed.map (·.1)) : chordStrictly (timed.map noteOfPress) time
      = refusing (do
        let keys ← (((timed.map labelOfPress).filter (·.1 == time)).map (·.2)).mapM checkKey
        return (time, keys.map fun (key : Nat) => Pitch.ofDegree key)) := by
  have hnotes : time ∈ (timed.map noteOfPress).map (·.1) := by
    rw [List.map_map]
    exact h
  have htones : ((timed.map noteOfPress).filter (·.1 == time)).mapM (fun (_, note) => do
      let fields ← fieldsOf note
      let key ← checkKeyStrictly (Json.field "key" fields)
      pitchOfDegree key)
      = refusing (((((timed.map labelOfPress).filter (·.1 == time)).map (·.2)).mapM checkKey).map
        (List.map fun (key : Nat) => Pitch.ofDegree key)) := by
    rw [List.filter_map, List.filter_map, List.mapM_map, List.map_map, List.mapM_map,
      ← mapM_map_right]
    refine mapM_refusing fun p _ => ?_
    show (checkKeyStrictly (Json.field "key" p.2) >>= fun key => pitchOfDegree key)
      = refusing ((checkKey (Json.field "key" p.2)).map _)
    rw [checkKeyStrictly_eq]
    cases checkKey (Json.field "key" p.2) with
    | error e => rfl
    | ok key => exact pitchOfDegree_eq key
  rw [chordStrictly, entry_gatherBy hnotes, ok_bind, htones, refusing_bind]
  cases ((((timed.map labelOfPress).filter (·.1 == time)).map (·.2)).mapM checkKey) <;> rfl

theorem times_eq (timed : List (Int × List (Text × Json))) :
    sortBy (fun a b => a ≤ b) ((gatherBy (·.1) (timed.map noteOfPress)).map (·.1))
      = moments (timed.map (·.1)) := by
  rw [gatherBy, List.map_map, List.map_map]
  exact congrArg _ (List.map_id _)

/-- The chords of the strict reader are those of the reader. -/
theorem mapM_chordStrictly (timed : List (Int × List (Text × Json))) :
    (moments (timed.map (·.1))).mapM (chordStrictly (timed.map noteOfPress))
      = refusing ((chords (timed.map labelOfPress)).mapM fun (time, labels) => do
        let keys ← labels.mapM checkKey
        return (time, keys.map fun (key : Nat) => Pitch.ofDegree key)) := by
  have htimes : (timed.map labelOfPress).map (·.1) = timed.map (·.1) := List.map_map
  rw [chords_eq, htimes, List.mapM_map]
  exact mapM_refusing fun time htime => chordStrictly_eq (mem_moments.mp htime)

/-- **The strict reader of event sheets does what the reader does.** -/
theorem readStrictly_eq (t : Text) : readStrictly t = refusing (read t) := by
  rw [readStrictly, read]
  cases Json.read t with
  | error e => rfl
  | ok document =>
    show (sheetFieldsStrictly document >>= _) = refusing (ofJson document)
    rw [ofJson, sheetFieldsStrictly_eq, refusing_bind]
    refine congrArg _ (funext fun fields => ?_)
    rw [refusing_bind]
    refine congrArg _ (funext fun keyNote => ?_)
    rw [refusing_bind]
    refine congrArg _ (funext fun bpm => ?_)
    rw [notesStrictly_eq, refusing_bind]
    cases pressFields (Json.field "songNotes" fields) with
    | error e => rfl
    | ok presses =>
      show (timedStrictly (presses.map .object) >>= _) = refusing (_ >>= _)
      rw [mapM_labels, timedStrictly_eq]
      cases htimed : presses.mapM timedPress with
      | error e => rfl
      | ok timed =>
        -- Every time that is looked up is that of a note.
        have hchords := mapM_chordStrictly timed
        rw [← times_eq] at hchords
        show (List.mapM (chordStrictly (timed.map noteOfPress)) _ >>= _)
          = refusing (List.mapM _ (chords (timed.map labelOfPress)) >>= _)
        rw [hchords, refusing_bind]
        rfl

end SongSheet.EventSheet
