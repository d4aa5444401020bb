import SongSheet.Format
import SongSheet.Proofs.Strict.CipherSheet
import SongSheet.Proofs.Strict.EventSheet
import SongSheet.Proofs.Strict.LetterSheet
import SongSheet.Proofs.Strict.Timeline

/-!
# Every sheet is read or refused

The strict readers index, look up, convert, compare and divide where the readers fall back on
something, and they do what the readers do. So **a text is read or it is refused, and no operation
is ever used where it has no result** (`reads_or_refuses`). What a sheet is refused for is its form,
a number out of range or a value of the wrong type (`SheetError.OfSheet`), not that it cannot be
played.

The fault of a sheet is followed through the readers as they are put together: a step after another
(`FailsBySheet.bind`), the same for every item (`FailsBySheet.mapM`).
-/

set_option autoImplicit false

namespace SongSheet

/-! ## 1. Faults of sheets -/

/-- What is wrong is in the sheet: its form, a number or a type. -/
def SheetError.OfSheet (e : SheetError) : Prop :=
  e.kind = .malformed ∨ e.kind = .outOfRange ∨ e.kind = .wrongType

/-- If there is no result, the sheet is at fault. -/
def FailsBySheet {α : Type} (x : Except SheetError α) : Prop := ∀ e, x = .error e → e.OfSheet

namespace FailsBySheet

variable {α β : Type} {e : SheetError}

theorem ok (a : α) : FailsBySheet (.ok a) := nofun

theorem error (h : e.OfSheet) : FailsBySheet (.error e : Except SheetError α) := by
  rintro _ ⟨⟩
  exact h

theorem malformed (h : e.kind = .malformed) : FailsBySheet (.error e : Except SheetError α) :=
  error (.inl h)

theorem outOfRange (h : e.kind = .outOfRange) : FailsBySheet (.error e : Except SheetError α) :=
  error (.inr (.inl h))

theorem wrongType (h : e.kind = .wrongType) : FailsBySheet (.error e : Except SheetError α) :=
  error (.inr (.inr h))

/-- One step after another. -/
theorem bind {x : Except SheetError α} {f : α → Except SheetError β} (hx : FailsBySheet x)
    (hf : ∀ a, FailsBySheet (f a)) : FailsBySheet (x >>= f) := by
  cases x with
  | error e => exact error (hx e rfl)
  | ok a => exact hf a

/-- A step for every item. -/
theorem mapM {f : α → Except SheetError β} (h : ∀ a, FailsBySheet (f a)) (xs : List α) :
    FailsBySheet (xs.mapM f) := by
  intro e he
  obtain ⟨x, -, hx⟩ := exists_error_of_mapM he
  exact h x e hx

/-- A step for every item on what the steps before it made. -/
theorem foldlM {f : β → α → Except SheetError β} (h : ∀ b a, FailsBySheet (f b a)) (b : β)
    (xs : List α) : FailsBySheet (xs.foldlM f b) := by
  induction xs generalizing b with
  | nil => exact ok b
  | cons x xs ih =>
    rw [List.foldlM_cons]
    exact (h b x).bind ih

end FailsBySheet

open FailsBySheet

theorem failsBySheet_checkBpm (value : Json) : FailsBySheet (Score.checkBpm value) := by
  unfold Score.checkBpm
  split
  · exact wrongType rfl
  · split
    · exact outOfRange rfl
    · exact ok _

theorem failsBySheet_checkPitchLevel (value : Json) :
    FailsBySheet (Score.checkPitchLevel value) := by
  unfold Score.checkPitchLevel
  split
  · exact wrongType rfl
  · split
    · exact outOfRange rfl
    · exact ok _

/-! ## 2. What the readers refuse -/

namespace EventSheet

theorem failsBySheet_sheetFields (document : Json) : FailsBySheet (sheetFields document) := by
  unfold sheetFields
  split
  · exact outOfRange rfl
  · split
    · exact outOfRange rfl
    · exact ok _
  · exact wrongType rfl

theorem failsBySheet_pressFields (value : Json) : FailsBySheet (pressFields value) := by
  unfold pressFields
  split
  · refine FailsBySheet.mapM (fun press => ?_) _
    split
    · exact ok _
    · exact wrongType rfl
  · exact wrongType rfl

theorem failsBySheet_checkTime (value : Json) : FailsBySheet (checkTime value) := by
  unfold checkTime
  dsimp only
  split
  · exact wrongType rfl
  · split
    · exact outOfRange rfl
    · exact ok _

theorem failsBySheet_checkKey (label : Json) : FailsBySheet (checkKey label) := by
  unfold checkKey
  split
  · split
    · split
      · exact ok _
      · exact outOfRange rfl
    · exact outOfRange rfl
  · exact outOfRange rfl

theorem failsBySheet_read (t : Text) : FailsBySheet (read t) := by
  unfold read
  split
  case h_2 => exact malformed rfl
  case h_1 document _ =>
    unfold ofJson
    refine (failsBySheet_sheetFields _).bind fun fields => ?_
    refine (failsBySheet_checkPitchLevel _).bind fun keyNote => ?_
    refine (failsBySheet_checkBpm _).bind fun bpm => ?_
    refine (failsBySheet_pressFields _).bind fun presses => ?_
    refine (FailsBySheet.mapM (fun press => ?_) _).bind fun timed => ?_
    · exact (failsBySheet_checkTime _).bind fun time => ok _
    refine (FailsBySheet.mapM (fun chord => ?_) _).bind fun sounding => ok _
    exact (FailsBySheet.mapM failsBySheet_checkKey _).bind fun keys => ok _

end EventSheet

namespace LetterSheet

theorem failsBySheet_splitHeader (t : Text) : FailsBySheet (splitHeader t) := by
  unfold splitHeader
  dsimp only
  split
  · exact malformed rfl
  · split
    · exact malformed rfl
    · split
      · exact malformed rfl
      · split
        · exact malformed rfl
        · exact ok _

theorem failsBySheet_readHeader (header fileName : Text) :
    FailsBySheet (readHeader header fileName) := by
  unfold readHeader
  refine (failsBySheet_checkPitchLevel _).bind fun keyNote => ?_
  exact (failsBySheet_checkBpm _).bind fun bpm => ok _

theorem failsBySheet_readKeys (keyLines : Text) : FailsBySheet (readKeys keyLines) := by
  unfold readKeys
  split
  · exact ok _
  · exact malformed rfl

theorem failsBySheet_read (fileName : Option Text) (t : Text) :
    FailsBySheet (read fileName t) := by
  unfold read
  refine (failsBySheet_splitHeader t).bind fun parts => ?_
  refine (failsBySheet_readHeader _ _).bind fun score => ?_
  exact (failsBySheet_readKeys _).bind fun beats => ok _

end LetterSheet

namespace CipherSheet

theorem failsBySheet_tone (n : Note) : FailsBySheet n.tone := by
  unfold Note.tone
  dsimp only
  split
  · exact outOfRange rfl
  · split <;> exact ok _

theorem failsBySheet_stepRate (rate : Rate) (step : Counted) :
    FailsBySheet (stepRate rate step) := by
  unfold stepRate Rate.withDen Rate.make
  dsimp only
  split
  · exact outOfRange rfl
  · split
    · split
      · exact outOfRange rfl
      · exact ok _
    · exact ok _

theorem failsBySheet_toBeat (c : Chord) : FailsBySheet c.toBeat := by
  unfold Chord.toBeat
  refine (FailsBySheet.foldlM failsBySheet_stepRate _ _).bind fun rate => ?_
  exact (FailsBySheet.mapM failsBySheet_tone _).bind fun tones => ok _

theorem failsBySheet_read (fileName : Option Text) (t : Text) :
    FailsBySheet (read fileName t) := by
  unfold read
  split
  · exact malformed rfl
  · refine (failsBySheet_checkBpm _).bind fun bpm => ?_
    exact (FailsBySheet.mapM failsBySheet_toBeat _).bind fun beats => ok _

end CipherSheet

namespace Timeline

theorem failsBySheet_items (content : Text) : FailsBySheet (items content) := by
  intro e he
  obtain ⟨index, -, rfl⟩ := exists_index_of_items he
  exact .inl rfl

theorem failsBySheet_ofSpans (name : Text) (timed : List Span) :
    FailsBySheet (ofSpans name timed) := by
  unfold ofSpans
  split
  · exact outOfRange rfl
  · exact (failsBySheet_checkBpm _).bind fun bpm => ok _

theorem failsBySheet_read (name content : Text) (version : Int) :
    FailsBySheet (read name content version) := by
  unfold read
  split
  · exact outOfRange rfl
  · exact (failsBySheet_items content).bind fun contents => failsBySheet_ofSpans _ _

end Timeline

/-! ## 3. Read or refused -/

/-- A strict reader and a reader come to the same: a score, or the fault of the sheet. -/
inductive ReadsOrRefuses : Except Fault Score → Except ReadError Score → Prop
  | reads (score : Score) : ReadsOrRefuses (.ok score) (.ok score)
  | refuses {e : SheetError} (fault : e.OfSheet) :
    ReadsOrRefuses (.error (.refused e)) (.error (.sheet e))

theorem readsOrRefuses_of_eq {strict : Except Fault Score} {plain : Except SheetError Score}
    (h : strict = Strict.refusing plain) (hfails : FailsBySheet plain) :
    ReadsOrRefuses strict (plain.mapError .sheet) := by
  subst h
  cases plain with
  | ok score => exact .reads score
  | error e => exact .refuses (hfails e rfl)

/-- **Whatever the text and the name of its file, the readers of event sheets, letter sheets and
cipher sheets and that of timelines come to a score or to the fault of the sheet, and no step of
theirs lapses.** -/
theorem reads_or_refuses (fileName : Option Text) (t name : Text) (version : Int) :
    ReadsOrRefuses (EventSheet.readStrictly t) (Format.eventSheet.reader fileName t)
      ∧ ReadsOrRefuses (LetterSheet.readStrictly fileName t) (Format.letterSheet.reader fileName t)
      ∧ ReadsOrRefuses (CipherSheet.readStrictly fileName t) (Format.cipherSheet.reader fileName t)
      ∧ ReadsOrRefuses (Timeline.readStrictly name t version)
        ((Timeline.read name t version).mapError .sheet) :=
  ⟨readsOrRefuses_of_eq (EventSheet.readStrictly_eq t) (EventSheet.failsBySheet_read t),
    readsOrRefuses_of_eq (LetterSheet.readStrictly_eq fileName t)
      (LetterSheet.failsBySheet_read fileName t),
    readsOrRefuses_of_eq (CipherSheet.readStrictly_eq fileName t)
      (CipherSheet.failsBySheet_read fileName t),
    readsOrRefuses_of_eq (Timeline.readStrictly_eq name t version)
      (Timeline.failsBySheet_read name t version)⟩

end SongSheet
