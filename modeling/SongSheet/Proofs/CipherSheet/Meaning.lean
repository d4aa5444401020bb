import Mathlib.Algebra.GroupWithZero.Nat
import SongSheet.CipherSheet
import SongSheet.Proofs.CipherSheet.Recutting

/-!
# What cipher sheets mean

A cipher sheet is read in two stages, and each refuses in its own way. A text that does not spell
music is malformed. Music that is spelled is out of range if it has no tempo, names a degree past
the seventh, or has a step that counts zero; **otherwise every chord becomes one beat**, and what
the beat sounds is said here by sums and products over the marks (`Chord.Sounds`), where the reader
goes along them one by one.

The reader stops at the first fault and goes on with what it has found till then, through a walk
along the steps, one along the notes and one along the chords. `AnswersUnless` says of a computation
when it is refused and what it answers otherwise, and it passes through binds and walks: each
function of the reader has one lemma in it, and `read_music_spec` puts them together.
-/

set_option autoImplicit false

namespace SongSheet.CipherSheet

/-! ## 1. Refused or answered -/

/-- A computation is refused as out of range if `bad` holds, and otherwise answers with something
`good`. -/
def AnswersUnless {α : Type} (bad : Prop) (good : α → Prop) (x : Except SheetError α) : Prop :=
  (bad ∧ ∃ e, x = .error e ∧ e.kind = .outOfRange) ∨ (¬bad ∧ ∃ a, x = .ok a ∧ good a)

namespace AnswersUnless

variable {α β : Type} {bad bad' : Prop} {good : α → Prop} {good' : β → Prop}

/-- Nothing but `bad` refuses. -/
theorem exists_error_iff {x : Except SheetError α} (h : AnswersUnless bad good x) :
    (∃ e, x = .error e ∧ e.kind = .outOfRange) ↔ bad := by
  rcases h with ⟨hbad, herror⟩ | ⟨hbad, a, rfl, -⟩
  · exact iff_of_true herror hbad
  · refine iff_of_false ?_ hbad
    rintro ⟨e, he, -⟩
    cases he

theorem kind_of_error {x : Except SheetError α} {e : SheetError} (h : AnswersUnless bad good x)
    (he : x = .error e) : e.kind = .outOfRange := by
  rcases h with ⟨-, e', rfl, hkind⟩ | ⟨-, a, rfl, -⟩
  · cases he
    exact hkind
  · cases he

theorem exists_ok {x : Except SheetError α} (h : AnswersUnless bad good x) (hbad : ¬bad) :
    ∃ a, x = .ok a ∧ good a := by
  rcases h with ⟨h, -⟩ | ⟨-, h⟩
  · exact absurd h hbad
  · exact h

/-- A refusal, and otherwise an answer. -/
theorem ite [Decidable bad] {e : SheetError} {a : α} (he : e.kind = .outOfRange)
    (ha : ¬bad → good a) : AnswersUnless bad good (if bad then .error e else .ok a) := by
  by_cases h : bad
  · exact .inl ⟨h, e, if_pos h, he⟩
  · exact .inr ⟨h, a, if_neg h, ha h⟩

/-- One computation after another is refused where either is. -/
theorem bind {x : Except SheetError α} {f : α → Except SheetError β}
    (hx : AnswersUnless bad good x) (hf : ∀ a, good a → AnswersUnless bad' good' (f a)) :
    AnswersUnless (bad ∨ bad') good' (x >>= f) := by
  rcases hx with ⟨hbad, e, rfl, he⟩ | ⟨hbad, a, rfl, ha⟩
  · exact .inl ⟨.inl hbad, e, rfl, he⟩
  · rcases hf a ha with ⟨hbad', e, hfa, he⟩ | ⟨hbad', b, hfa, hb⟩
    · exact .inl ⟨.inr hbad', e, hfa, he⟩
    · exact .inr ⟨not_or.mpr ⟨hbad, hbad'⟩, b, hfa, hb⟩

/-- What comes out may be turned into something else at the end. -/
theorem map {x : Except SheetError α} {f : α → β} (hx : AnswersUnless bad good x)
    (hf : ∀ a, good a → good' (f a)) : AnswersUnless bad good' (x >>= fun a => .ok (f a)) := by
  rcases hx with ⟨hbad, e, rfl, he⟩ | ⟨hbad, a, rfl, ha⟩
  · exact .inl ⟨hbad, e, rfl, he⟩
  · exact .inr ⟨hbad, f a, rfl, hf a ha⟩

/-- A walk along a list is refused where one of its items is. -/
theorem mapM {f : α → Except SheetError β} {bad : α → Prop} {good : α → β → Prop} {xs : List α}
    (h : ∀ x ∈ xs, AnswersUnless (bad x) (good x) (f x)) :
    AnswersUnless (∃ x ∈ xs, bad x) (List.Forall₂ good xs) (xs.mapM f) := by
  induction xs with
  | nil => exact .inr ⟨by simp, [], rfl, .nil⟩
  | cons x xs ih =>
    obtain ⟨hx, hxs⟩ := List.forall_mem_cons.mp h
    rw [List.mapM_cons, List.exists_mem_cons_iff]
    exact hx.bind fun y hy => (ih hxs).map fun ys hys => List.Forall₂.cons hy hys

end AnswersUnless

/-! ## 2. Notes -/

/-- The degree that a note names; the degree zero is a rest. -/
def Note.degree (n : Note) : Nat := n.digit.digit?.getD 0

/-- How often a mark counts: as its digits say, and once without any. -/
def Counted.count (m : Counted) : Nat := if m.digits.isEmpty then 1 else Text.readNat m.digits

/-- How often one mark counts among others. -/
def countOf (mark : CodePoint) (ms : List Counted) : Nat :=
  ((ms.filter (·.mark = mark)).map Counted.count).sum

/-- The pitch of a note: its degree, moved by octaves and by semitones. -/
def Note.pitch (n : Note) : Int :=
  Pitch.ofDegree (n.degree - 1)
    + 12 * ((countOf '+' n.modifiers : Int) - countOf '-' n.modifiers)
    + ((countOf '#' n.modifiers : Int) - countOf 'b' n.modifiers)

theorem countOf_cons (mark : CodePoint) (m : Counted) (ms : List Counted) :
    countOf mark (m :: ms) = countOf mark [m] + countOf mark ms := by
  unfold countOf
  by_cases h : m.mark = mark <;> simp [h]

/-- What one mark adds. -/
theorem modifierShift_eq {m : Counted} (h : isModifier m.mark = true) :
    modifierShift m
      = 12 * ((countOf '+' [m] : Int) - countOf '-' [m])
        + ((countOf '#' [m] : Int) - countOf 'b' [m]) := by
  have hcount : (if m.digits.isEmpty then 1 else (Text.readNat m.digits : Int)) = m.count := by
    unfold Counted.count
    split <;> rfl
  rw [modifierShift, hcount]
  rcases isModifier_cases h with hmark | hmark | hmark | hmark <;>
    simp +decide [countOf, hmark] <;> omega

/-- **The marks of a note may stand in any order**: what they add is a sum over each mark. -/
theorem foldr_modifierShift {ms : List Counted} (h : ∀ m ∈ ms, isModifier m.mark = true) :
    (ms.map modifierShift).foldr (· + ·) 0
      = 12 * ((countOf '+' ms : Int) - countOf '-' ms)
        + ((countOf '#' ms : Int) - countOf 'b' ms) := by
  induction ms with
  | nil => rfl
  | cons m ms ih =>
    obtain ⟨hm, hms⟩ := List.forall_mem_cons.mp h
    rw [List.map_cons, List.foldr_cons, ih hms, modifierShift_eq hm]
    simp only [countOf_cons _ m ms]
    push_cast
    omega

/-- **A note is refused for the degrees eight and nine**, and otherwise it is a rest or sounds its
pitch. -/
theorem Note.tone_spec {n : Note} (h : n.WellFormed) :
    AnswersUnless (n.degree = 8 ∨ n.degree = 9)
      (· = if n.degree = 0 then none else some n.pitch) n.tone := by
  have hpitch : n.pitch = Pitch.ofDegree (n.degree - 1)
      + (n.modifiers.map modifierShift).foldr (· + ·) 0 := by
    rw [Note.pitch, foldr_modifierShift fun m hm => (h.modifiers m hm).1]
    omega
  -- A digit of any script counts less than ten, so there are just two degrees too many.
  have hlt : n.degree < 10 := by
    obtain ⟨d, hd⟩ := Option.isSome_iff_exists.mp h.digit
    rw [Note.degree, hd]
    exact CodePoint.digit?_lt_ten hd
  have hbad : n.degree = 8 ∨ n.degree = 9 ↔ 7 < n.degree := by omega
  have htone : n.tone = if 7 < n.degree then .error (.cipherDegree n.digit)
      else .ok (if n.degree = 0 then none else some n.pitch) := by
    rw [hpitch, Note.tone, Note.degree]
    split
    · rfl
    · split <;> rfl
  rw [htone, hbad]
  exact .ite rfl fun _ => rfl

/-! ## 3. Rates -/

/-- The product of the counts behind one mark. -/
def productOf (mark : CodePoint) (steps : List Counted) : Nat :=
  ((steps.filter (·.mark = mark)).map (Text.readNat ·.digits)).prod

theorem productOf_cons (mark : CodePoint) (s : Counted) (steps : List Counted) :
    productOf mark (s :: steps) = productOf mark [s] * productOf mark steps := by
  unfold productOf
  by_cases h : s.mark = mark <;> simp [h]

/-- A step multiplies one field of a rate, unless it counts zero. -/
theorem stepRate_spec {s : Counted} (rate : Rate) (h : isStep s.mark = true) :
    AnswersUnless (Text.readNat s.digits = 0)
      (fun r => r.num = rate.num * productOf '*' [s] ∧ r.den = rate.den * productOf '/' [s])
      (stepRate rate s) := by
  by_cases hcount : Text.readNat s.digits = 0
  · refine .inl ⟨hcount, .cipherRate (s.mark :: s.digits), ?_, rfl⟩
    rw [stepRate]
    exact if_pos hcount
  · refine .inr ⟨hcount, ?_⟩
    rw [stepRate]
    rcases isStep_cases h with hmark | hmark
    · refine ⟨rate.withNum (rate.num * Text.readNat s.digits), ?_, ?_⟩
      · rw [hmark]
        simp +decide [hcount]
      · simp +decide [productOf, hmark, Rate.withNum]
    · have hden : rate.den * Text.readNat s.digits ≠ 0 :=
        Int.mul_ne_zero rate.den_ne_zero (by omega)
      refine ⟨⟨rate.num, rate.den * Text.readNat s.digits, hden⟩, ?_, ?_⟩
      · simp [hmark, hcount, Rate.withDen, Rate.make, hden]
      · simp +decide [productOf, hmark]

/-- **A rate is refused for a step that counts zero**, and otherwise it is multiplied by the product
of the steps of each kind. -/
theorem foldlM_stepRate_spec {steps : List Counted} (rate : Rate)
    (h : ∀ s ∈ steps, isStep s.mark = true) :
    AnswersUnless (∃ s ∈ steps, Text.readNat s.digits = 0)
      (fun r => r.num = rate.num * productOf '*' steps ∧ r.den = rate.den * productOf '/' steps)
      (steps.foldlM stepRate rate) := by
  induction steps generalizing rate with
  | nil => exact .inr ⟨by simp, rate, rfl, by simp [productOf], by simp [productOf]⟩
  | cons s steps ih =>
    obtain ⟨hs, hsteps⟩ := List.forall_mem_cons.mp h
    rw [List.foldlM_cons, List.exists_mem_cons_iff]
    refine (stepRate_spec rate hs).bind fun r hr => ?_
    -- The rest of the walk starts from a rate that the first step has multiplied.
    have hrest := ih r hsteps
    rw [hr.1, hr.2] at hrest
    simpa only [productOf_cons _ s steps, Int.natCast_mul, Int.mul_assoc] using hrest

/-! ## 4. Chords and sheets -/

/-- **What a chord sounds**: the products of its steps as the fields of the rate, and the pitch of
every note that is no rest, each once. -/
structure Chord.Sounds (c : Chord) (b : Beat) : Prop where
  num : b.rate.num = productOf '*' c.steps
  den : b.rate.den = productOf '/' c.steps
  tones : b.tones = ((c.notes.filter (·.degree ≠ 0)).map Note.pitch).eraseDups

/-- A chord that no beat belongs to: a degree past the seventh, or a step that counts zero. -/
def Chord.IsOutOfRange (c : Chord) : Prop :=
  (∃ s ∈ c.steps, Text.readNat s.digits = 0) ∨ ∃ n ∈ c.notes, n.degree = 8 ∨ n.degree = 9

instance (c : Chord) : Decidable c.IsOutOfRange := inferInstanceAs (Decidable (_ ∨ _))

/-- The rests drop out of the tones that are read. -/
theorem filterMap_tones {notes : List Note} {tones : List (Option Int)}
    (h : List.Forall₂ (fun n tone => tone = if n.degree = 0 then none else some n.pitch)
      notes tones) :
    tones.filterMap id = (notes.filter (·.degree ≠ 0)).map Note.pitch := by
  induction h with
  | nil => rfl
  | @cons n tone notes tones htone _ ih =>
    rw [htone, List.filterMap_cons, ih]
    by_cases hrest : n.degree = 0 <;> simp [hrest]

/-- **A chord is refused for one of its steps or one of its notes**, and otherwise it is the beat
that it sounds. -/
theorem Chord.toBeat_spec {c : Chord} (h : c.WellFormed) :
    AnswersUnless c.IsOutOfRange c.Sounds c.toBeat := by
  have hrate := foldlM_stepRate_spec (.ofInt 1) fun s hs => (h.steps s hs).1
  have htones := AnswersUnless.mapM fun n hn => Note.tone_spec (h.notes n hn)
  refine hrate.bind fun rate hr => htones.map fun tones ht => ⟨?_, ?_, ?_⟩
  · rw [hr.1]
    exact Int.one_mul _
  · rw [hr.2]
    exact Int.one_mul _
  · exact congrArg List.eraseDups (filterMap_tones ht)

/-- Music that no score belongs to: without a tempo, or with a chord that no beat belongs to. -/
def Music.IsOutOfRange (m : Music) : Prop :=
  Text.readNat m.bpm = 0 ∨ ∃ c ∈ m.chords, c.IsOutOfRange

instance (m : Music) : Decidable m.IsOutOfRange := inferInstanceAs (Decidable (_ ∨ _))

theorem Music.tempo_spec (m : Music) :
    AnswersUnless (Text.readNat m.bpm = 0) (· = (Text.readNat m.bpm : Int)) m.tempo := by
  have hbad : Text.readNat m.bpm = 0 ↔ (Text.readNat m.bpm : Int) ≤ 0 := by omega
  rw [hbad]
  exact .ite rfl fun _ => rfl

/-- **Music that is spelled is refused exactly if it is out of range.** -/
theorem read_of_spells (fileName : Option Text) {t : Text} {m : Music} (h : m.Spells (music t)) :
    AnswersUnless m.IsOutOfRange
      (fun score => score.bpm = (Text.readNat m.bpm : Int)
        ∧ List.Forall₂ Chord.Sounds m.chords score.beats)
      (read fileName t) := by
  have hbeats := AnswersUnless.mapM fun c hc => Chord.toBeat_spec (h.1.chords c hc)
  rw [read, Music.ofText?_of_spells h]
  exact m.tempo_spec.bind fun bpm hbpm => hbeats.map fun beats hsounds => ⟨hbpm, hsounds⟩

/-- What spells nothing is malformed. -/
theorem read_of_not_spells (fileName : Option Text) {t : Text}
    (h : ¬∃ m : Music, m.Spells (music t)) : read fileName t = .error .cipherForm := by
  have hnone : Music.ofText? (music t) = none := by
    rw [Option.eq_none_iff_forall_ne_some]
    exact fun m hm => h ⟨m, Music.ofText?_eq_some_iff.mp hm⟩
  rw [read, hnone]

/-- **What a cipher sheet is, and what it means.** It is malformed exactly if its music spells
nothing, and there is one message for that. Music that is spelled is cut into the same chords by
whoever cuts it again, so no piece of it is left that is no beat; it is refused exactly if it is out
of range, and otherwise there is a beat for every chord, in order. -/
theorem read_music_spec (fileName : Option Text) (t : Text) :
    ((∃ e, read fileName t = .error e ∧ e.kind = .malformed) ↔ ¬∃ m : Music, m.Spells (music t))
    ∧ (∀ e, read fileName t = .error e → e.kind = .malformed → e.message = "Syntax error")
    ∧ ∀ m : Music, m.Spells (music t) →
      recut? (music t) = some m.chords
      ∧ ((∃ e, read fileName t = .error e ∧ e.kind = .outOfRange) ↔ m.IsOutOfRange)
      ∧ (¬m.IsOutOfRange → ∃ score, read fileName t = .ok score
        ∧ score.bpm = (Text.readNat m.bpm : Int)
        ∧ List.Forall₂ Chord.Sounds m.chords score.beats) := by
  have hmalformed : ∀ e, read fileName t = .error e → e.kind = .malformed →
      e = .cipherForm ∧ ¬∃ m : Music, m.Spells (music t) := by
    intro e he hkind
    have hnone : ¬∃ m : Music, m.Spells (music t) := by
      rintro ⟨m, hm⟩
      rw [(read_of_spells fileName hm).kind_of_error he] at hkind
      cases hkind
    rw [read_of_not_spells fileName hnone] at he
    exact ⟨(Except.error.inj he).symm, hnone⟩
  refine ⟨⟨?_, ?_⟩, ?_, ?_⟩
  · rintro ⟨e, he, hkind⟩
    exact (hmalformed e he hkind).2
  · intro hnone
    exact ⟨.cipherForm, read_of_not_spells fileName hnone, rfl⟩
  · intro e he hkind
    rw [(hmalformed e he hkind).1]
    rfl
  · intro m hm
    have hread := read_of_spells fileName hm
    exact ⟨recut?_of_spells hm, hread.exists_error_iff, hread.exists_ok⟩

/-- An empty piece is no chord; the digits of other scripts count too, and the eighth degree of any
is refused; a note with two kinds of marks, next to a rest with a rate. -/
theorem read_music_spec_samples :
    (∃ e, read none "[1=C,4/4,120]1,," = .error e ∧ e.kind = .malformed)
    ∧ (∃ e, read none "[1=C,4/4,120]1,٨" = .error e ∧ e.kind = .outOfRange)
    ∧ ∃ m : Music, m.Spells (music "[1=F#,3/4,90] ٣+2b&5b-, // slow\n0*2/3*2,") ∧ ¬m.IsOutOfRange
      ∧ ∃ score, read none "[1=F#,3/4,90] ٣+2b&5b-, // slow\n0*2/3*2," = .ok score
        ∧ score.bpm = (Text.readNat m.bpm : Int)
        ∧ List.Forall₂ Chord.Sounds m.chords score.beats := by
  refine ⟨?_, ?_, ?_⟩
  · refine (read_music_spec none _).1.mpr ?_
    rintro ⟨m, hm⟩
    have hread : Music.ofText? (music "[1=C,4/4,120]1,,") = none := by decide +kernel
    cases hread.symm.trans (Music.ofText?_eq_some_iff.mpr hm)
  · let m : Music := ⟨'C', none, "120", [⟨[⟨'1', []⟩], []⟩, ⟨[⟨'٨', []⟩], []⟩]⟩
    have hspells : m.Spells (music "[1=C,4/4,120]1,٨") :=
      Music.ofText?_eq_some_iff.mp (by decide +kernel)
    exact ((read_music_spec none _).2.2 m hspells).2.1.mpr (by decide +kernel)
  · let m : Music := ⟨'F', some '#', "90", [⟨[⟨'٣', [⟨'+', "2"⟩, ⟨'b', []⟩]⟩,
      ⟨'5', [⟨'b', []⟩, ⟨'-', []⟩]⟩], []⟩, ⟨[⟨'0', []⟩], [⟨'*', "2"⟩, ⟨'/', "3"⟩, ⟨'*', "2"⟩]⟩]⟩
    have hspells : m.Spells (music "[1=F#,3/4,90] ٣+2b&5b-, // slow\n0*2/3*2,") :=
      Music.ofText?_eq_some_iff.mp (by decide +kernel)
    have hrange : ¬m.IsOutOfRange := by decide +kernel
    exact ⟨m, hspells, hrange, ((read_music_spec none _).2.2 m hspells).2.2 hrange⟩

end SongSheet.CipherSheet
