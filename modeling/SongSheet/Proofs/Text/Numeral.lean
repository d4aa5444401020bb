import Mathlib.Data.List.TakeDrop
import SongSheet.Proofs.Text.Cut
import SongSheet.Text.Digit

/-!
# Numerals — written and read back

A number is written with the ASCII digits and read with the digits of every script. Writing then
reading is the identity (`readNat_ofNat`); what a reader that stops at the first code point which
is no digit takes off a numeral is the numeral itself, whatever follows (`takeDigits_ofNat`). A
reader of whole texts has the number, with its sign (`wholeInt?_ofInt`).

Everything else a format puts next to a numeral is no digit, and `ne_of_isDigit` says the same the
other way round: no digit is one of the format's marks.
-/

set_option autoImplicit false

namespace SongSheet

namespace CodePoint

theorem asciiDigit?_of_between {c : CodePoint} (h : c.between '0' '9' = true) :
    c.asciiDigit? = some (c.val - 48) := by
  simp [asciiDigit?, h]

theorem digit?_of_between {c : CodePoint} (h : c.between '0' '9' = true) :
    c.digit? = some (c.val - 48) := by
  simp [digit?, asciiDigit?_of_between h]

theorem isDigit_of_between {c : CodePoint} (h : c.between '0' '9' = true) : c.isDigit = true := by
  simp [isDigit, digit?_of_between h]

/-- No digit of any script counts ten. -/
theorem digit?_lt_ten {c : CodePoint} {d : Nat} (h : c.digit? = some d) : d < 10 := by
  rw [digit?, asciiDigit?] at h
  by_cases hascii : c.between '0' '9' = true
  · simp only [if_pos hascii, Option.some.injEq] at h
    simp only [between, Bool.and_eq_true, decide_eq_true_eq] at hascii
    have hhigh : '9'.toNat = 57 := rfl
    omega
  · simp only [if_neg hascii] at h
    split at h
    · cases h
    · obtain ⟨start, hstart, rfl⟩ := Option.map_eq_some_iff.mp h
      have hrun := List.find?_some hstart
      simp only [Bool.and_eq_true, decide_eq_true_eq] at hrun
      omega

/-- A digit differs from whatever is none. -/
theorem ne_of_isDigit {c d : CodePoint} (hc : c.isDigit = true) (hd : d.isDigit = false) :
    c ≠ d := by
  rintro rfl
  rw [hc] at hd
  cases hd

theorem between_ofChar {c : Char} (h : c.isDigit = true) :
    (ofChar c).between '0' '9' = true := by
  simp only [Char.isDigit, Bool.and_eq_true, decide_eq_true_eq, UInt32.le_iff_toNat_le] at h
  rw [between, Bool.and_eq_true]
  exact ⟨decide_eq_true h.1, decide_eq_true h.2⟩

theorem digit?_ofChar {c : Char} (h : c.isDigit = true) :
    (ofChar c).digit? = some (c.toNat - '0'.toNat) :=
  digit?_of_between (between_ofChar h)

end CodePoint

namespace Text

/-! ## What a numeral is made of -/

theorem between_of_mem_ofNat {n : Nat} {c : CodePoint} (h : c ∈ ofNat n) :
    c.between '0' '9' = true := by
  obtain ⟨d, hd, rfl⟩ := List.mem_map.mp h
  exact CodePoint.between_ofChar (Nat.isDigit_of_mem_toDigits (by decide) (by decide) hd)

theorem isDigit_of_mem_ofNat {n : Nat} {c : CodePoint} (h : c ∈ ofNat n) : c.isDigit = true :=
  CodePoint.isDigit_of_between (between_of_mem_ofNat h)

@[simp] theorem ofNat_ne_nil (n : Nat) : ofNat n ≠ [] := by
  simp [ofNat, Nat.toDigits_ne_nil]

theorem areDigits_ofNat (n : Nat) : (ofNat n).all (·.isDigit) = true :=
  List.all_eq_true.mpr fun _ h => isDigit_of_mem_ofNat h

/-- A numeral starts with one of the ASCII digits. -/
theorem ofNat_eq_cons (n : Nat) : ∃ d ds, ofNat n = d :: ds ∧ d.between '0' '9' = true := by
  obtain ⟨d, ds, hcons⟩ := List.exists_cons_of_ne_nil (ofNat_ne_nil n)
  exact ⟨d, ds, hcons, between_of_mem_ofNat (n := n) (by simp [hcons])⟩

theorem ofInt_of_nonneg {n : Int} (h : 0 ≤ n) : ofInt n = ofNat n.natAbs := by
  simp [ofInt, Int.not_lt.mpr h]

/-- A numeral is made of digits, but for its sign. -/
theorem mem_ofInt {n : Int} {c : CodePoint} (h : c ∈ ofInt n) :
    c = '-' ∨ c.between '0' '9' = true := by
  rw [ofInt] at h
  split at h
  · rcases List.mem_cons.mp h with rfl | h
    · exact .inl rfl
    · exact .inr (between_of_mem_ofNat h)
  · exact .inr (between_of_mem_ofNat h)

/-- A numeral is ASCII, and holds no control characters. -/
theorem ascii_of_mem_ofInt {n : Int} {c : CodePoint} (h : c ∈ ofInt n) :
    0x20 ≤ c.val ∧ c.val < 0x80 := by
  rcases mem_ofInt h with rfl | hbetween
  · decide
  · simp only [CodePoint.between, Bool.and_eq_true, decide_eq_true_eq] at hbetween
    exact ⟨Nat.le_trans (by decide) hbetween.1, Nat.lt_of_le_of_lt hbetween.2 (by decide)⟩

/-! ## Reading it back -/

/-- Reading digits goes on from what was read before. -/
theorem foldl_digit_eq (ds : List Char) (h : ∀ c ∈ ds, c.isDigit = true) (start : Nat) :
    (ds.map CodePoint.ofChar).foldl (fun n c => n * 10 + c.digit?.getD 0) start
      = Nat.ofDigitChars 10 ds start := by
  induction ds generalizing start with
  | nil => rfl
  | cons d ds ih =>
    rw [List.map_cons, List.foldl_cons, Nat.ofDigitChars_cons,
      CodePoint.digit?_ofChar (h d (by simp)), ih fun c hc => h c (by simp [hc])]
    congr 1
    simp [Nat.mul_comm]

/-- One more digit. -/
theorem readNat_concat {digits : Text} {d : CodePoint} (h : d.between '0' '9' = true) :
    readNat (digits ++ [d]) = readNat digits * 10 + (d.val - 48) := by
  rw [readNat, List.foldl_append, List.foldl_cons, CodePoint.digit?_of_between h]
  rfl

@[simp] theorem readNat_ofNat (n : Nat) : readNat (ofNat n) = n := by
  rw [readNat, ofNat, foldl_digit_eq _ fun c hc =>
    Nat.isDigit_of_mem_toDigits (by decide) (by decide) hc]
  exact Nat.ofDigitChars_ten_toDigits

/-- Digits come off a text up to the first code point that is none. -/
theorem takeDigits_append {ds rest : Text} (hds : ∀ c ∈ ds, c.isDigit = true)
    (hrest : ∀ c ∈ rest.head?, c.isDigit = false) : takeDigits (ds ++ rest) = (ds, rest) := by
  rw [takeDigits, List.span_eq_takeWhile_dropWhile, List.takeWhile_append_of_pos hds,
    List.dropWhile_append_of_pos hds]
  cases rest with
  | nil => simp
  | cons c rest =>
    have hc : c.isDigit = false := hrest c (by simp)
    simp [hc]

theorem takeDigits_ofNat {n : Nat} {rest : Text} (h : ∀ c ∈ rest.head?, c.isDigit = false) :
    takeDigits (ofNat n ++ rest) = (ofNat n, rest) :=
  takeDigits_append (fun _ => isDigit_of_mem_ofNat) h

/-- No digit of any script is a blank. -/
theorem isBlank_of_isDigit {c : CodePoint} (h : c.isDigit = true) : c.isBlank = false := by
  have hblanks : ∀ n ∈ [0x09, 0x0A, 0x0B, 0x0C, 0x0D, 0x1C, 0x1D, 0x1E, 0x1F, 0x20, 0x85, 0xA0,
      0x1680, 0x2000, 0x2001, 0x2002, 0x2003, 0x2004, 0x2005, 0x2006, 0x2007, 0x2008, 0x2009,
      0x200A, 0x2028, 0x2029, 0x202F, 0x205F, 0x3000], ∀ hn : n < 0x110000,
      CodePoint.isDigit ⟨n, hn⟩ = false := by decide
  rw [← Bool.not_eq_true]
  intro hblank
  have hval : c.val ∈ [0x09, 0x0A, 0x0B, 0x0C, 0x0D, 0x1C, 0x1D, 0x1E, 0x1F, 0x20, 0x85, 0xA0,
      0x1680, 0x2000, 0x2001, 0x2002, 0x2003, 0x2004, 0x2005, 0x2006, 0x2007, 0x2008, 0x2009,
      0x200A, 0x2028, 0x2029, 0x202F, 0x205F, 0x3000] := by
    simp only [CodePoint.isBlank, Bool.or_eq_true, Bool.and_eq_true, decide_eq_true_eq] at hblank
    simp only [List.mem_cons, List.not_mem_nil, or_false]
    omega
  have hdigit := hblanks c.val hval c.isLt
  rw [h] at hdigit
  cases hdigit

/-- A numeral at the front of a text is the number that the text starts with. -/
theorem leadingInt?_ofNat (n : Nat) : leadingInt? (ofNat n) = some (n : Int) := by
  obtain ⟨c, rest, hcons, hbetween⟩ := ofNat_eq_cons n
  have hdigit : c.isDigit = true := CodePoint.isDigit_of_between hbetween
  have hplus : c ≠ '+' := CodePoint.ne_of_isDigit hdigit (by decide)
  have hminus : c ≠ '-' := CodePoint.ne_of_isDigit hdigit (by decide)
  have htrim : trimLeft (ofNat n) = c :: rest := by
    rw [trimLeft, hcons, List.dropWhile_cons, if_neg (by simp [isBlank_of_isDigit hdigit])]
  have htake : takeDigits (c :: rest) = (c :: rest, []) := by
    have htake : takeDigits (ofNat n ++ []) = (ofNat n, []) := takeDigits_ofNat (by simp)
    rwa [List.append_nil, hcons] at htake
  have hread : readNat (c :: rest) = n := by rw [← hcons, readNat_ofNat]
  rw [leadingInt?, htrim]
  simp only [hplus, hminus, or_self, if_false, htake, List.isEmpty_cons, Bool.false_eq_true, hread]

theorem spacedDigits?_of_digits {ds : Text} (hne : ds ≠ []) (hds : ∀ c ∈ ds, c.isDigit = true) :
    spacedDigits? ds = some ds := by
  induction ds with
  | nil => exact absurd rfl hne
  | cons c ds ih =>
    obtain ⟨hc, hds⟩ := List.forall_mem_cons.mp hds
    rw [spacedDigits?.eq_def]
    dsimp only
    rw [if_neg (by simp [hc])]
    cases ds with
    | nil => rfl
    | cons d ds =>
      have hd : d ≠ '_' := CodePoint.ne_of_isDigit (hds d (by simp)) (by decide)
      dsimp only
      rw [if_neg hd, ih (List.cons_ne_nil _ _) hds]
      rfl

/-- **A numeral is the number that it writes.** -/
theorem wholeInt?_ofInt (n : Int) : wholeInt? (ofInt n) = some n := by
  have hmargin : ∀ c ∈ ofInt n, isMargin c = false := by
    intro c hc
    have hblank : c.isBlank = false := by
      rcases mem_ofInt hc with rfl | hbetween
      · decide
      · exact isBlank_of_isDigit (CodePoint.isDigit_of_between hbetween)
    rw [isMargin, hblank]
    rfl
  have hhead : ∀ c ∈ (ofInt n).head?, isMargin c = false :=
    fun c hc => hmargin c (List.mem_of_head? hc)
  have hlast : ∀ c ∈ (ofInt n).getLast?, isMargin c = false :=
    fun c hc => hmargin c (List.mem_of_getLast? hc)
  rw [wholeInt?, dropWhile_eq_self hhead, dropEnd_eq_self hlast, ofInt]
  by_cases hneg : n < 0
  · rw [if_pos hneg]
    have hdigits := spacedDigits?_of_digits (ofNat_ne_nil n.natAbs)
      fun c => isDigit_of_mem_ofNat
    simp only [or_true, if_true, hdigits, Option.map_some, readNat_ofNat]
    congr 1
    omega
  · rw [if_neg hneg]
    obtain ⟨c, rest, hcons, hbetween⟩ := ofNat_eq_cons n.natAbs
    have hdigit : c.isDigit = true := CodePoint.isDigit_of_between hbetween
    have hplus : c ≠ '+' := CodePoint.ne_of_isDigit hdigit (by decide)
    have hminus : c ≠ '-' := CodePoint.ne_of_isDigit hdigit (by decide)
    have hdigits := spacedDigits?_of_digits (ofNat_ne_nil n.natAbs)
      fun c => isDigit_of_mem_ofNat
    have hread : readNat (ofNat n.natAbs) = n.natAbs := readNat_ofNat _
    rw [hcons] at hdigits hread ⊢
    simp only [hplus, hminus, or_self, if_false, hdigits, Option.map_some, hread]
    congr 1
    omega

end Text

end SongSheet
