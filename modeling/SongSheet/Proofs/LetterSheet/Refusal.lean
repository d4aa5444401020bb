import SongSheet.LetterSheet
import SongSheet.Proofs.Text.Cut
import SongSheet.Proofs.Traversal

/-!
# Texts that are no letter sheets

The mark of a letter sheet may stand anywhere in a text, and metadata may hold it, so a sheet of
another format can look like one for a while. Two things still tell it apart: **a header needs a
line of its own** (`read_of_oneLine`), and **the key lines hold nothing but keys, dots and blanks**,
so a star on the last lines is too much (`read_of_star`).
-/

set_option autoImplicit false

namespace SongSheet.LetterSheet

/-- A code point that may stand on a key line. -/
def isKeyPart (c : CodePoint) : Bool :=
  c = '.' || (row? c).isSome || (column? c).isSome || c.isBlank

theorem isKeyPart_of_marks {t : Text} {ms : List Mark} (h : marks t = .ok ms) {c : CodePoint}
    (hc : c ∈ t) : isKeyPart c = true := by
  fun_induction marks t generalizing ms with
  | case1 => cases hc
  | case2 t ih =>
    obtain ⟨ms, hms, -⟩ := map_eq_ok h
    rcases List.mem_cons.mp hc with rfl | hc
    · decide
    · exact ih hms hc
  | case3 d t hdot hrow hblank ih =>
    obtain ⟨ms, hms, -⟩ := map_eq_ok h
    rcases List.mem_cons.mp hc with rfl | hc
    · simp [isKeyPart, hblank]
    · exact ih hms hc
  | case4 | case5 | case6 => cases h
  | case7 d hdot row hrow e u column hcolumn ih =>
    obtain ⟨ms, hms, -⟩ := map_eq_ok h
    rcases List.mem_cons.mp hc with rfl | hc
    · simp [isKeyPart, hrow]
    rcases List.mem_cons.mp hc with rfl | hc
    · simp [isKeyPart, hcolumn]
    · exact ih hms hc

/-- A header was cut out behind a bracket and up to a line feed. -/
theorem exists_cuts_of_splitHeader {t header keyLines : Text}
    (h : splitHeader t = .ok (header, keyLines)) :
    ∃ before rest line, Text.cut? [.ofChar '>'] (Text.unixLines (Text.trim t)) = some (before, rest)
      ∧ Text.cut? [.ofChar '\n'] rest = some (line, keyLines) := by
  rw [splitHeader] at h
  split at h
  · cases h
  split at h
  · cases h
  split at h
  · cases h
  case h_2 before rest hbracket =>
    split at h
    · cases h
    case h_2 line keyLines hline =>
      cases h
      exact ⟨before, rest, line, hbracket, hline⟩

/-- What is read has key lines, and they hold nothing else. -/
theorem exists_marks_of_read {fileName : Option Text} {t : Text} {score : Score}
    (h : read fileName t = .ok score) :
    ∃ header keyLines ms, splitHeader t = .ok (header, keyLines) ∧ marks keyLines = .ok ms := by
  obtain ⟨⟨header, keyLines⟩, hsplit, h⟩ := bind_eq_ok h
  obtain ⟨announced, -, h⟩ := bind_eq_ok h
  obtain ⟨bs, hkeys, -⟩ := bind_eq_ok h
  rw [readKeys] at hkeys
  split at hkeys
  case h_1 ms hms => exact ⟨header, keyLines, ms, hsplit, hms⟩
  case h_2 => cases hkeys

/-- **A text on one line is no letter sheet.** -/
theorem read_of_oneLine (fileName : Option Text) {t : Text}
    (h : .ofChar '\n' ∉ Text.unixLines (Text.trim t)) : ∃ e, read fileName t = .error e := by
  cases hread : read fileName t with
  | error e => exact ⟨e, rfl⟩
  | ok score =>
    obtain ⟨header, keyLines, -, hsplit, -⟩ := exists_marks_of_read hread
    obtain ⟨before, rest, line, hbracket, hline⟩ := exists_cuts_of_splitHeader hsplit
    rw [Text.eq_append_of_cut? hbracket, Text.eq_append_of_cut? hline] at h
    exact absurd (by simp) h

/-- **A text with a star on the lines behind its last bracket is no letter sheet**, wherever the
mark stands. -/
theorem read_of_star (fileName : Option Text) {t u v : Text}
    (h : Text.unixLines (Text.trim t) = u ++ .ofChar '\n' :: v) (hbracket : .ofChar '>' ∉ v)
    (hstar : .ofChar '*' ∈ v) : ∃ e, read fileName t = .error e := by
  cases hread : read fileName t with
  | error e => exact ⟨e, rfl⟩
  | ok score =>
    obtain ⟨header, keyLines, ms, hsplit, hms⟩ := exists_marks_of_read hread
    obtain ⟨before, rest, line, hcut, hline⟩ := exists_cuts_of_splitHeader hsplit
    rw [h] at hcut
    have hrest : .ofChar '\n' :: v <:+ rest :=
      Text.suffix_of_cut?_of_not_mem (by simpa [CodePoint.ofChar_inj] using hbracket) hcut
    obtain ⟨w, rfl⟩ := hrest
    have hkeyLines : v <:+ keyLines := Text.suffix_of_cut?_of_mem hline
    have hpart := isKeyPart_of_marks hms (hkeyLines.subset hstar)
    exact absurd hpart (by decide)

end SongSheet.LetterSheet
