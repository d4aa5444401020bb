import SongSheet.Format
import SongSheet.Proofs.Traversal

/-!
# What each format writes

The writers of the formats are what their own modules make of a score, put together with the shift
that was needed. Event sheets and scripts are made from strokes alone, once the score is placed.
-/

set_option autoImplicit false

namespace SongSheet.Format

variable (keyLayout : Option Text) (score : Score)

theorem writer_eventSheet : eventSheet.writer keyLayout score
    = (Placement.place score EventSheet.layout).map fun placement =>
      ⟨EventSheet.ofPlacement score placement, placement.shift⟩ := by
  show (do
    let placement ← Placement.place score EventSheet.layout
    return ⟨EventSheet.ofPlacement score placement, placement.shift⟩
      : Except SheetError Written) = _
  cases Placement.place score EventSheet.layout <;> rfl

theorem writer_letterSheet : letterSheet.writer keyLayout score
    = (LetterSheet.write score).map fun text => { text } := by
  show (do return { text := ← LetterSheet.write score } : Except SheetError Written) = _
  cases LetterSheet.write score <;> rfl

theorem writer_cipherSheet :
    cipherSheet.writer keyLayout score = .ok { text := CipherSheet.write score } := rfl

theorem writer_script : script.writer keyLayout score
    = (Script.layoutFor keyLayout).bind fun layout =>
      (Placement.place score layout).map fun placement =>
        ⟨Script.ofPlacement layout score placement, placement.shift⟩ := by
  show (do
    let layout ← Script.layoutFor keyLayout
    let placement ← Placement.place score layout
    return ⟨Script.ofPlacement layout score placement, placement.shift⟩
      : Except SheetError Written) = _
  cases Script.layoutFor keyLayout with
  | error e => rfl
  | ok layout =>
    rw [ok_bind]
    cases h : Placement.place score layout <;> simp only [Except.bind, h] <;> rfl

end SongSheet.Format
