import SongSheet.CipherSheet
import SongSheet.Proofs.CipherSheet.Acceptance
import SongSheet.Proofs.Strict.Operation

/-!
# The strict reader of cipher sheets

Every count of a cipher sheet is taken from a numeral, every degree from the first code point of a
note, and the letter of the key is looked up among the seven. **The strict reader does what the
reader does** (`CipherSheet.readStrictly_eq`): the form was checked before the meaning is asked for.
-/

set_option autoImplicit false

namespace SongSheet.CipherSheet

open Strict

/-- The pitch of the tonic. -/
def keyNoteStrictly (m : Music) : Except Fault Int := do
  let degree ← placeOf letters (← item (m.letter :: m.accidental.toList) 0)
  let natural ← pitchOfDegree degree
  return if m.accidental = some '#' then natural + 1
    else if m.accidental = some 'b' then natural - 1
    else natural

/-- What a modifier adds to a tone. -/
def modifierShiftStrictly (m : Counted) : Except Fault Int := do
  let count ← if m.digits.isEmpty then .ok 1 else number m.digits
  return if m.mark = '+' then count * 12
    else if m.mark = '-' then -(count * 12)
    else if m.mark = '#' then count
    else -count

/-- The tone of a note. -/
def toneStrictly (n : Note) : Except Fault (Option Int) := do
  let digit ← item n.render 0
  let degree ← number [digit]
  if 7 < degree then refuse (.cipherDegree digit)
  else if degree = 0 then return none
  else
    let natural ← pitchOfDegree (degree - 1)
    let shifts ← n.modifiers.mapM modifierShiftStrictly
    return some (natural + shifts.foldr (· + ·) 0)

/-- A rate after one more step. -/
def stepRateStrictly (rate : Rate) (step : Counted) : Except Fault Rate := do
  let count ← number step.digits
  if count = 0 then refuse (.cipherRate (step.mark :: step.digits))
  else if step.mark = '/' then refusing (Rate.make rate.num (rate.den * count))
  else refusing (Rate.make (rate.num * count) rate.den)

/-- The beat of a chord. -/
def beatStrictly (c : Chord) : Except Fault Beat := do
  let rate ← c.steps.foldlM stepRateStrictly (Rate.ofInt 1)
  let tones ← c.notes.mapM toneStrictly
  return { rate, tones := (tones.filterMap id).eraseDups }

/-- The score of a cipher sheet, step by step. -/
def readStrictly (fileName : Option Text) (t : Text) : Except Fault Score :=
  match Music.ofText? (music t) with
  | none => refuse .cipherForm
  | some m => do
    let keyNote ← keyNoteStrictly m
    let count ← number m.bpm
    let bpm ← refusing (Score.checkBpm (.int count))
    let beats ← m.chords.mapM beatStrictly
    return {
      name := .string (title fileName t)
      author := .string (headerValue t .author)
      transcriber := .string (headerValue t .transcribedBy)
      keyNote
      bpm
      beats }

/-- A numeral of the grammar has a number. -/
theorem number_of_isNumeral {t : Text} (h : isNumeral t = true) :
    number t = .ok (Text.readNat t) := by
  rw [isNumeral, Bool.and_eq_true] at h
  exact number_of_digits (by simpa using h.1) fun d hd => mem_of_areDigits h.2 hd

theorem mem_letters {c : CodePoint} (h : c.between 'A' 'G' = true) : c ∈ letters := by
  obtain ⟨n, hn⟩ := c
  simp only [CodePoint.between, Bool.and_eq_true, decide_eq_true_eq] at h
  obtain ⟨hlow, hhigh⟩ : 65 ≤ n ∧ n ≤ 71 := h
  have hall : ∀ i ≤ 6, ∀ hi : 65 + i < 0x110000, (⟨65 + i, hi⟩ : CodePoint) ∈ letters := by decide
  obtain ⟨i, rfl⟩ := Nat.exists_eq_add_of_le hlow
  exact hall i (by omega) hn

theorem keyNoteStrictly_eq {m : Music} (h : m.WellFormed) :
    keyNoteStrictly m = .ok m.keyNote := by
  have hletter : m.letter ∈ letters := mem_letters h.letter
  have hitem : item (m.letter :: m.accidental.toList) 0 = .ok m.letter := rfl
  rw [keyNoteStrictly, hitem, ok_bind, placeOf_of_mem hletter, ok_bind, pitchOfDegree_eq, ok_bind]
  rfl

theorem modifierShiftStrictly_eq {m : Counted} (h : areDigits m.digits = true) :
    modifierShiftStrictly m = .ok (modifierShift m) := by
  rw [modifierShiftStrictly, modifierShift]
  by_cases hempty : m.digits.isEmpty = true
  · rw [if_pos hempty, if_pos hempty]
    rfl
  · have hnumber : number m.digits = .ok (Text.readNat m.digits) :=
      number_of_digits (fun hnil => hempty (List.isEmpty_iff.mpr hnil))
        fun d hd => mem_of_areDigits h hd
    rw [if_neg hempty, if_neg hempty, hnumber, ok_bind]
    rfl

theorem toneStrictly_eq {n : Note} (h : n.WellFormed) : toneStrictly n = refusing n.tone := by
  have hshifts : n.modifiers.mapM modifierShiftStrictly = .ok (n.modifiers.map modifierShift) :=
    mapM_ok fun m hm => modifierShiftStrictly_eq (h.modifiers m hm).2
  have hitem : item n.render 0 = .ok n.digit := rfl
  rw [toneStrictly, hitem, ok_bind, number_digit h.digit, ok_bind, Note.tone]
  split_ifs with hpast hrest
  · rfl
  · rfl
  · rw [pitchOfDegree_eq, ok_bind, hshifts, ok_bind]
    rfl

theorem stepRateStrictly_eq {rate : Rate} {step : Counted} (h : isNumeral step.digits = true) :
    stepRateStrictly rate step = refusing (stepRate rate step) := by
  rw [stepRateStrictly, number_of_isNumeral h, ok_bind, stepRate]
  split_ifs with hzero hshorter
  · rfl
  · rfl
  · rw [Rate.make, dif_neg rate.den_ne_zero]
    rfl

theorem foldlM_stepRateStrictly {steps : List Counted}
    (h : ∀ s ∈ steps, isNumeral s.digits = true) (rate : Rate) :
    steps.foldlM stepRateStrictly rate = refusing (steps.foldlM stepRate rate) := by
  induction steps generalizing rate with
  | nil => rfl
  | cons step steps ih =>
    rw [List.foldlM_cons, List.foldlM_cons, stepRateStrictly_eq (h step (by simp)), refusing_bind]
    exact congrArg _ (funext fun next => ih (fun s hs => h s (by simp [hs])) next)

theorem beatStrictly_eq {c : Chord} (h : c.WellFormed) : beatStrictly c = refusing c.toBeat := by
  rw [beatStrictly, Chord.toBeat, foldlM_stepRateStrictly fun s hs => (h.steps s hs).2,
    refusing_bind]
  refine congrArg _ (funext fun rate => ?_)
  rw [mapM_refusing fun n hn => toneStrictly_eq (h.notes n hn), refusing_bind]
  rfl

/-- **The strict reader of cipher sheets does what the reader does.** -/
theorem readStrictly_eq (fileName : Option Text) (t : Text) :
    readStrictly fileName t = refusing (read fileName t) := by
  rw [readStrictly, read]
  cases hmusic : Music.ofText? (music t) with
  | none => rfl
  | some m =>
    have hwell := Music.wellFormed_of_ofText? hmusic
    dsimp only
    rw [keyNoteStrictly_eq hwell, ok_bind, number_of_isNumeral hwell.bpm, ok_bind, refusing_bind]
    refine congrArg _ (funext fun bpm => ?_)
    have hbeats : m.chords.mapM beatStrictly = refusing m.toBeats :=
      mapM_refusing fun c hc => beatStrictly_eq (hwell.chords c hc)
    rw [hbeats, refusing_bind]
    rfl

end SongSheet.CipherSheet
