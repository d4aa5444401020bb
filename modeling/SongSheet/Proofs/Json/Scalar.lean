import SongSheet.Proofs.Text.Cut
import SongSheet.Proofs.Text.Numeral
import SongSheet.Json.Reader
import SongSheet.Json.Writer

/-!
# JSON strings and integers — written and read back

Each is read with any text after it, as the reader of a document never knows where a value ends
before it has read it. A string ends at its own quotation mark, so what follows does not matter
(`stringBody_quote`). An integer ends where the text stops looking like a number (`Stops`), so what
follows does (`number?_ofInt`).

Inside a string only control characters are written by their numbers. That is why the halves of a
surrogate pair, which the reader joins when both were numbered, come back as the two code points
they were.
-/

set_option autoImplicit false

namespace SongSheet.Json

/-! ## 1. Strings -/

/-- The answer for the rest of a string with one more piece in front. -/
def withPiece (p : Piece) (answer : Except Refusal (List Piece × Text)) :
    Except Refusal (List Piece × Text) :=
  answer.map fun (pieces, rest) => (p :: pieces, rest)

theorem stringPieces_letter {start rest : Text} {d e : CodePoint} (hu : d ≠ 'u')
    (h : letterEscape? d = some e) :
    stringPieces start ('\\' :: d :: rest) = withPiece ⟨e, false⟩ (stringPieces start rest) := by
  rw [stringPieces.eq_def]
  simp only [if_neg hu, h]
  rw [if_neg (by decide), if_pos trivial]
  cases stringPieces start rest <;> rfl

theorem stringPieces_number (start : Text) {rest : Text} {h1 h2 h3 h4 : CodePoint} {n : Nat}
    (hrest : rest ≠ []) (h : hex4? h1 h2 h3 h4 = some n) :
    stringPieces start ('\\' :: 'u' :: h1 :: h2 :: h3 :: h4 :: rest)
      = withPiece ⟨.ofNat n, true⟩ (stringPieces start rest) := by
  cases rest with
  | nil => exact absurd rfl hrest
  | cons c rest =>
    rw [stringPieces.eq_def]
    simp only [h]
    rw [if_neg (by decide), if_pos trivial, if_pos trivial]
    cases stringPieces start (c :: rest) <;> rfl

theorem stringPieces_plain {start rest : Text} {c : CodePoint} (hquote : c ≠ '"')
    (hslash : c ≠ '\\') (h : ¬c.val < 0x20) :
    stringPieces start (c :: rest) = withPiece ⟨c, false⟩ (stringPieces start rest) := by
  rw [stringPieces.eq_def]
  simp only [if_neg hquote, if_neg hslash, if_neg h]
  cases stringPieces start rest <;> rfl

/-- The digits of a control character's number. -/
def controlDigits (n : Nat) : CodePoint × CodePoint :=
  (.ofChar (n / 16).digitChar, .ofChar (n % 16).digitChar)

theorem hex_control : ∀ n < 0x20,
    Text.hex 4 n = [.ofChar '0', .ofChar '0', (controlDigits n).1, (controlDigits n).2]
      ∧ hex4? '0' '0' (controlDigits n).1 (controlDigits n).2 = some n := by
  decide

theorem ofNat_val (c : CodePoint) : CodePoint.ofNat c.val = c := dif_pos c.isLt

/-- The three ways in which a code point is written: by a letter, by its number, as it is. -/
theorem stringChar_cases (c : CodePoint) :
    (∃ d : CodePoint, d ≠ 'u' ∧ d ≠ '/' ∧ letterEscape? d = some c
        ∧ stringChar false c = [.ofChar '\\', d])
      ∨ (c.val < 0x20 ∧ stringChar false c = numericEscape c)
      ∨ (c ≠ '"' ∧ c ≠ '\\' ∧ ¬c.val < 0x20 ∧ stringChar false c = [c]) := by
  unfold stringChar
  split_ifs with hsame hline hreturn htab hfeed hback hcontrol
  · refine Or.inl ⟨c, ?_, ?_, ?_, rfl⟩
    · rcases hsame with rfl | rfl <;> decide
    · rcases hsame with rfl | rfl <;> decide
    · rcases hsame with rfl | rfl <;> decide
  · exact Or.inl ⟨.ofChar 'n', by decide, by decide, by rw [hline]; decide, rfl⟩
  · exact Or.inl ⟨.ofChar 'r', by decide, by decide, by rw [hreturn]; decide, rfl⟩
  · exact Or.inl ⟨.ofChar 't', by decide, by decide, by rw [htab]; decide, rfl⟩
  · exact Or.inl ⟨.ofChar 'f', by decide, by decide, by rw [← ofNat_val c, hfeed]; decide, rfl⟩
  · exact Or.inl ⟨.ofChar 'b', by decide, by decide, by rw [← ofNat_val c, hback]; decide, rfl⟩
  · exact Or.inr (Or.inl ⟨by simpa using hcontrol, rfl⟩)
  · rw [not_or] at hsame
    exact Or.inr (Or.inr ⟨hsame.1, hsame.2, by simpa using hcontrol, rfl⟩)

/-- What a control character is written as: its number, in four digits. -/
def controlEscape (n : Nat) : Text :=
  [.ofChar '\\', .ofChar 'u', .ofChar '0', .ofChar '0', (controlDigits n).1, (controlDigits n).2]

theorem numericEscape_of_control {c : CodePoint} (h : c.val < 0x20) :
    numericEscape c = controlEscape c.val := by
  obtain ⟨hhex, -⟩ := hex_control c.val h
  rw [numericEscape, if_pos (by omega), hhex]
  rfl

theorem letterEscape?_ascii {d c : CodePoint} (h : letterEscape? d = some c) :
    0x20 ≤ d.val ∧ d.val < 0x80 := by
  unfold letterEscape? at h
  split_ifs at h with hsame hb hf hn hr ht
  · rcases hsame with rfl | rfl | rfl <;> decide
  all_goals
    subst_vars
    decide

/-- A string holds no control characters, and of those outside ASCII only its own. -/
theorem mem_stringChar {c d : CodePoint} (h : d ∈ stringChar false c) :
    0x20 ≤ d.val ∧ (d = c ∨ d.val < 0x80) := by
  rcases stringChar_cases c with ⟨e, -, -, he, hc⟩ | ⟨hcontrol, hc⟩ | ⟨-, -, hcontrol, hc⟩
  · obtain ⟨hlow, hhigh⟩ := letterEscape?_ascii he
    rw [hc, List.mem_pair] at h
    rcases h with rfl | rfl
    · exact ⟨by decide, .inr (by decide)⟩
    · exact ⟨hlow, .inr hhigh⟩
  · have hdigits : ∀ n < 0x20, ∀ d ∈ controlEscape n, 0x20 ≤ d.val ∧ d.val < 0x80 := by decide
    rw [hc, numericEscape_of_control hcontrol] at h
    obtain ⟨hlow, hhigh⟩ := hdigits c.val hcontrol d h
    exact ⟨hlow, .inr hhigh⟩
  · rw [hc, List.mem_singleton] at h
    exact ⟨by rw [h]; omega, .inl h⟩

theorem mem_quote {t : Text} {d : CodePoint} (h : d ∈ quote false t) :
    0x20 ≤ d.val ∧ (d ∈ t ∨ d.val < 0x80) := by
  rw [quote, Text.enclose, List.mem_append, List.mem_cons, List.mem_flatMap, List.mem_singleton]
    at h
  rcases h with (rfl | ⟨c, hc, hd⟩) | rfl
  · exact ⟨by decide, .inr (by decide)⟩
  · obtain ⟨hlow, rfl | hhigh⟩ := mem_stringChar hd
    · exact ⟨hlow, .inl hc⟩
    · exact ⟨hlow, .inr hhigh⟩
  · exact ⟨by decide, .inr (by decide)⟩

/-- A code point is read as it was written, and by its number only below the blank. -/
theorem stringPieces_stringChar (c : CodePoint) (start : Text) {rest : Text} (hrest : rest ≠ []) :
    ∃ numbered : Bool, (numbered → c.val < 0x20) ∧
      stringPieces start (stringChar false c ++ rest)
        = withPiece ⟨c, numbered⟩ (stringPieces start rest) := by
  rcases stringChar_cases c with ⟨d, hu, -, hd, h⟩ | ⟨hcontrol, h⟩ | ⟨hquote, hslash, hcontrol, h⟩
  · rw [h]
    exact ⟨false, nofun, stringPieces_letter hu hd⟩
  · obtain ⟨-, hread⟩ := hex_control c.val hcontrol
    have hnumber := stringPieces_number start hrest hread
    rw [ofNat_val] at hnumber
    rw [h, numericEscape_of_control hcontrol]
    exact ⟨true, fun _ => hcontrol, hnumber⟩
  · rw [h]
    exact ⟨false, nofun, stringPieces_plain hquote hslash hcontrol⟩

/-- The pieces of a string that was written: its code points, and none of them by a number that
could be half of a pair. -/
theorem stringPieces_quote (t start r : Text) :
    ∃ pieces,
      stringPieces start (t.flatMap (stringChar false) ++ ('"' : CodePoint) :: r) = .ok (pieces, r)
      ∧ pieces.map (·.value) = t ∧ ∀ p ∈ pieces, p.numbered → p.value.val < 0x20 := by
  induction t with
  | nil => exact ⟨[], by rw [stringPieces.eq_def]; rfl, rfl, nofun⟩
  | cons c t ih =>
    obtain ⟨pieces, hpieces, hvalues, hnumbers⟩ := ih
    rw [List.flatMap_cons, List.append_assoc]
    obtain ⟨numbered, hnumbered, hc⟩ := stringPieces_stringChar c start
      (List.append_ne_nil_of_right_ne_nil (t.flatMap (stringChar false)) (List.cons_ne_nil _ r))
    refine ⟨⟨c, numbered⟩ :: pieces, ?_, ?_, ?_⟩
    · rw [hc, hpieces]
      rfl
    · rw [List.map_cons, hvalues]
    · intro p hp
      rcases List.mem_cons.mp hp with rfl | hp
      · exact hnumbered
      · exact hnumbers p hp

/-- Pieces are joined one by one where no number can be half of a pair. -/
theorem joinPieces_eq_map {pieces : List Piece}
    (h : ∀ p ∈ pieces, p.numbered → p.value.isHighSurrogate = false) :
    joinPieces pieces = pieces.map (·.value) := by
  fun_induction joinPieces pieces with
  | case1 => rfl
  | case2 p => rfl
  | case3 p q rest hpair ih =>
    simp only [Bool.and_eq_true] at hpair
    obtain ⟨⟨⟨hp, -⟩, hhigh⟩, -⟩ := hpair
    rw [h p (by simp) hp] at hhigh
    cases hhigh
  | case4 p q rest hpair ih =>
    rw [ih fun s hs => h s (List.mem_cons_of_mem _ hs)]
    rfl

/-- **A string that was written is read back**, whatever comes after it. -/
theorem stringBody_quote (t start r : Text) :
    stringBody start (t.flatMap (stringChar false) ++ ('"' : CodePoint) :: r) = .ok (t, r) := by
  obtain ⟨pieces, hpieces, hvalues, hnumbers⟩ := stringPieces_quote t start r
  have hjoin : joinPieces pieces = t := by
    rw [joinPieces_eq_map, hvalues]
    intro p hp hnumbered
    -- Halves of pairs are far above the control characters.
    have hsmall := hnumbers p hp hnumbered
    rw [CodePoint.isHighSurrogate, decide_eq_false (by omega), Bool.false_and]
  rw [stringBody, hpieces, ← hjoin]
  rfl

/-! ## 2. Integers -/

/-- A text that a number before it does not go on into. -/
def Stops (r : Text) : Prop :=
  ∀ c ∈ r.head?, c.between '0' '9' = false ∧ c ≠ '.' ∧ c ≠ 'e' ∧ c ≠ 'E'

theorem asciiDigits_append {ds r : Text} (hds : ∀ c ∈ ds, c.between '0' '9' = true)
    (hr : ∀ c ∈ r.head?, c.between '0' '9' = false) : asciiDigits (ds ++ r) = (ds, r) := by
  rw [asciiDigits, List.span_eq_takeWhile_dropWhile, List.takeWhile_append_of_pos hds,
    List.dropWhile_append_of_pos hds]
  cases r with
  | nil => simp
  | cons c r =>
    have hc : c.between '0' '9' = false := hr c (by simp)
    simp [hc]

theorem fraction_of_stops {r : Text} (h : Stops r) : fraction r = ([], r) := by
  cases r with
  | nil => rfl
  | cons c r =>
    obtain ⟨-, hpoint, -⟩ := h c (by simp)
    rw [fraction, if_neg hpoint]

theorem exponent?_of_stops {r : Text} (h : Stops r) : exponent? r = none := by
  cases r with
  | nil => rfl
  | cons c r =>
    obtain ⟨-, -, hlower, hupper⟩ := h c (by simp)
    exact if_neg (not_or.mpr ⟨hlower, hupper⟩)

/-- Only zero is written with a zero in front. -/
theorem head?_toDigits (n : Nat) (h : 0 < n) : (Nat.toDigits 10 n).head? ≠ some '0' := by
  induction n using Nat.strong_induction_on with
  | _ n ih =>
    by_cases hsmall : n < 10
    · rw [Nat.toDigits_of_lt_base hsmall]
      have hdigits : ∀ k < 10, 0 < k → [k.digitChar].head? ≠ some '0' := by decide
      exact hdigits n hsmall h
    · have hmore : Nat.toDigits 10 (n / 10) ≠ [] := Nat.toDigits_ne_nil
      rw [Nat.toDigits_of_base_le (by decide) (by omega), List.head?_append_of_ne_nil _ hmore]
      exact ih (n / 10) (by omega) (by omega)

theorem head?_ofNat {n : Nat} (h : 0 < n) : (Text.ofNat n).head? ≠ some (.ofChar '0') := by
  rw [Text.ofNat, List.head?_map]
  intro hhead
  obtain ⟨c, hc, hzero⟩ := Option.map_eq_some_iff.mp hhead
  rw [CodePoint.ofChar_inj.mp hzero] at hc
  exact head?_toDigits n h hc

/-- The digits of a number and where it stops: a zero in front stands alone. -/
theorem whole_of_ofNat {n : Nat} {d : CodePoint} {ds r : Text} (hcons : Text.ofNat n = d :: ds)
    (h : Stops r) :
    (if d = '0' then ([d], ds ++ r) else asciiDigits (d :: (ds ++ r))) = (d :: ds, r) := by
  split
  case isTrue hzero =>
    have hn : n = 0 := by
      refine Nat.eq_zero_of_not_pos fun hn => head?_ofNat hn ?_
      rw [hcons, hzero, List.head?_cons]
    rw [hn] at hcons
    obtain ⟨-, rfl⟩ := List.cons.inj hcons
    rfl
  case isFalse =>
    rw [← List.cons_append, ← hcons]
    exact asciiDigits_append (fun _ => Text.between_of_mem_ofNat) fun c hc => (h c hc).1

/-- An integer starts with a digit or with its sign. -/
theorem ofInt_eq_cons (n : Int) :
    ∃ c t, Text.ofInt n = c :: t ∧ (c = '-' ∨ c.between '0' '9' = true) := by
  obtain ⟨d, ds, hcons, hdigit⟩ := Text.ofNat_eq_cons n.natAbs
  by_cases hsign : n < 0
  · exact ⟨.ofChar '-', d :: ds, by rw [Text.ofInt, if_pos hsign, hcons], Or.inl rfl⟩
  · exact ⟨d, ds, by rw [Text.ofInt, if_neg hsign, hcons], Or.inr hdigit⟩

/-- **An integer that was written is read back**, before any text that does not go on with it. -/
theorem number?_ofInt {n : Int} {r : Text} (h : Stops r) :
    number? (Text.ofInt n ++ r) = some (.int n, r) := by
  obtain ⟨d, ds, hcons, hbetween⟩ := Text.ofNat_eq_cons n.natAbs
  have hdigit := CodePoint.isDigit_of_between hbetween
  have hminus : d ≠ '-' := CodePoint.ne_of_isDigit hdigit (by decide)
  have hread : Text.readNat (d :: ds) = n.natAbs := by rw [← hcons, Text.readNat_ofNat]
  have hwhole := whole_of_ofNat hcons h
  by_cases hsign : n < 0
  · have hvalue : -(n.natAbs : Int) = n := by omega
    rw [Text.ofInt, if_pos hsign, hcons, number?.eq_def]
    simp only [List.cons_append, if_pos, hwhole, fraction_of_stops h, exponent?_of_stops h,
      List.isEmpty_cons, List.isEmpty_nil, hread, hvalue]
    rfl
  · have hvalue : (n.natAbs : Int) = n := by omega
    rw [Text.ofInt, if_neg hsign, hcons, number?.eq_def]
    simp only [List.cons_append, if_neg hminus, hwhole, fraction_of_stops h, exponent?_of_stops h,
      List.isEmpty_cons, List.isEmpty_nil, hread, hvalue]
    rfl

/-! ## 3. Words -/

theorem after?_of_ne {c d : CodePoint} (h : c ≠ d) (start t : Text) :
    Text.after? (c :: start) (d :: t) = none :=
  if_neg h

/-- No word starts where none of their first letters stands. -/
theorem word?_of_ne {d : CodePoint} (t : Text)
    (h : d ≠ 'n' ∧ d ≠ 't' ∧ d ≠ 'f' ∧ d ≠ 'N' ∧ d ≠ 'I')
    (hminus : Text.after? "-Infinity" (d :: t) = none) : word? (d :: t) = none := by
  obtain ⟨hnull, htrue, hfalse, hnan, hinfinity⟩ := h
  rw [word?, List.findSome?_eq_none_iff]
  intro entry hentry
  simp only [List.mem_cons, List.not_mem_nil, or_false] at hentry
  rcases hentry with rfl | rfl | rfl | rfl | rfl | rfl
  · exact congrArg (Option.map _) (after?_of_ne hnull.symm _ t)
  · exact congrArg (Option.map _) (after?_of_ne htrue.symm _ t)
  · exact congrArg (Option.map _) (after?_of_ne hfalse.symm _ t)
  · exact congrArg (Option.map _) (after?_of_ne hnan.symm _ t)
  · exact congrArg (Option.map _) (after?_of_ne hinfinity.symm _ t)
  · exact congrArg (Option.map _) hminus

/-- An integer is none of the words that stand for a value. -/
theorem word?_ofInt (n : Int) (r : Text) : word? (Text.ofInt n ++ r) = none := by
  obtain ⟨d, ds, hcons, hbetween⟩ := Text.ofNat_eq_cons n.natAbs
  have hdigit := CodePoint.isDigit_of_between hbetween
  have hne : ∀ c : CodePoint, c.isDigit = false → d ≠ c := by
    intro c hc
    exact CodePoint.ne_of_isDigit hdigit hc
  by_cases hsign : n < 0
  · rw [Text.ofInt, if_pos hsign, hcons]
    refine word?_of_ne _ ⟨by decide, by decide, by decide, by decide, by decide⟩ ?_
    exact (if_pos rfl).trans (after?_of_ne (hne 'I' (by decide)).symm _ _)
  · rw [Text.ofInt, if_neg hsign, hcons]
    refine word?_of_ne _ ⟨hne 'n' (by decide), hne 't' (by decide), hne 'f' (by decide),
      hne 'N' (by decide), hne 'I' (by decide)⟩ ?_
    exact after?_of_ne (hne '-' (by decide)).symm _ _

end SongSheet.Json
