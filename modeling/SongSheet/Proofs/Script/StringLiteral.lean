import SongSheet.Proofs.Json.Scalar
import SongSheet.Script.StringLiteral

/-!
# JSON strings as string literals

A script holds its texts as JSON wrote them, and reads them by the escapes of its own. The two
languages agree on all that JSON writes: the letters after a backslash, apart from the solidus,
which is never escaped, and the numbers of control characters. So **a JSON string is the literal of
its text** (`stringRest?_quote`, `value?_quote`): the literal ends at the mark that closes the
string, and stands for the text that was written.

Both facts go along the text one code point at a time, by the three ways in which it may be written.
-/

set_option autoImplicit false

namespace SongSheet.Script

open Json (stringChar letterEscape? controlDigits controlEscape numericEscape_of_control)

/-- An escape by a letter means the same in both languages, unless it is the solidus. -/
theorem plainEscape?_of_letterEscape? {d c : CodePoint} (h : letterEscape? d = some c)
    (hd : d ≠ '/') : plainEscape? d = some [c] := by
  unfold letterEscape? at h
  split_ifs at h with hsame hb hf hn hr ht
  · rcases hsame with rfl | rfl | rfl
    · cases h
      rfl
    · cases h
      rfl
    · exact absurd rfl hd
  all_goals
    subst_vars
    cases h
    rfl

/-- The digits of a control character's number, as what they count. -/
theorem hexDigit?_controlDigits : ∀ n < 0x20,
    (controlDigits n).1.hexDigit? = some (n / 16)
      ∧ (controlDigits n).2.hexDigit? = some (n % 16) := by
  decide

/-- The digits of a control character's number neither end a literal nor escape anything. -/
theorem controlDigits_plain : ∀ n < 0x20, ∀ d ∈ [(controlDigits n).1, (controlDigits n).2],
    d ≠ .ofChar '"' ∧ d ≠ .ofChar '\n' ∧ d ≠ .ofChar '\\' := by
  decide

/-! ## 1. Where the literal ends -/

theorem lineString_escape {mark : CodePoint} (hmark : mark ≠ .ofChar '\\') (d : CodePoint)
    (rest : Text) :
    lineString mark (.ofChar '\\' :: d :: rest)
      = (lineString mark rest).map fun (body, r) => (.ofChar '\\' :: d :: body, r) := by
  rw [lineString.eq_def]
  exact (if_neg (Ne.symm hmark)).trans ((if_neg (by decide)).trans (if_pos rfl))

theorem lineString_plain {mark c : CodePoint} (hmark : c ≠ mark) (hline : c ≠ .ofChar '\n')
    (hslash : c ≠ .ofChar '\\') (rest : Text) :
    lineString mark (c :: rest) = (lineString mark rest).map fun (body, r) => (c :: body, r) := by
  rw [lineString.eq_def]
  exact (if_neg hmark).trans ((if_neg hline).trans (if_neg hslash))

/-- No code point ends the literal, however it is written. -/
theorem lineString_stringChar (c : CodePoint) (rest : Text) :
    lineString (.ofChar '"') (stringChar false c ++ rest)
      = (lineString (.ofChar '"') rest).map fun (body, r) => (stringChar false c ++ body, r) := by
  rcases Json.stringChar_cases c with
    ⟨d, -, -, -, h⟩ | ⟨hcontrol, h⟩ | ⟨hquote, hslash, hcontrol, h⟩
  · rw [h]
    exact lineString_escape (by decide) d rest
  · -- The backslash takes the letter `u` along; the digits after it are ordinary.
    obtain ⟨hquote1, hline1, hslash1⟩ := controlDigits_plain c.val hcontrol
      (controlDigits c.val).1 (by simp)
    obtain ⟨hquote2, hline2, hslash2⟩ := controlDigits_plain c.val hcontrol
      (controlDigits c.val).2 (by simp)
    simp only [h, numericEscape_of_control hcontrol, controlEscape, List.cons_append,
      List.nil_append]
    rw [lineString_escape (by decide), lineString_plain (by decide) (by decide) (by decide),
      lineString_plain (by decide) (by decide) (by decide),
      lineString_plain hquote1 hline1 hslash1, lineString_plain hquote2 hline2 hslash2]
    simp only [Option.map_map]
    rfl
  · rw [h]
    refine lineString_plain hquote ?_ hslash rest
    rintro rfl
    exact hcontrol (by decide)

/-- The literal of a JSON string ends with the string. -/
theorem lineString_quote (t r : Text) :
    lineString (.ofChar '"') (t.flatMap (stringChar false) ++ .ofChar '"' :: r)
      = some (t.flatMap (stringChar false), r) := by
  induction t with
  | nil =>
    rw [lineString.eq_def]
    exact if_pos rfl
  | cons c t ih =>
    rw [List.flatMap_cons, List.append_assoc, lineString_stringChar, ih]
    rfl

/-- A written code point does not start with the mark. -/
theorem stringChar_eq_cons (c : CodePoint) :
    ∃ d ds, stringChar false c = d :: ds ∧ d ≠ .ofChar '"' := by
  rcases Json.stringChar_cases c with ⟨d, -, -, -, h⟩ | ⟨hcontrol, h⟩ | ⟨hquote, -, -, h⟩
  · exact ⟨_, _, h, by decide⟩
  · rw [h, numericEscape_of_control hcontrol]
    exact ⟨_, _, rfl, by decide⟩
  · exact ⟨_, _, h, hquote⟩

/-- **A JSON string is one literal**, unless a mark follows it at once: an empty one would then be
taken for the opening of a longer literal. -/
theorem stringRest?_quote (t : Text) {r : Text} (hr : r.head? ≠ some (.ofChar '"')) :
    stringRest? (.ofChar '"') (t.flatMap (stringChar false) ++ .ofChar '"' :: r)
      = some (t.flatMap (stringChar false), r) := by
  have hshort : Text.after? [.ofChar '"', .ofChar '"']
      (t.flatMap (stringChar false) ++ .ofChar '"' :: r) = none := by
    rw [Text.after?_eq_none_iff]
    rintro ⟨u, hu⟩
    cases t with
    | nil =>
      obtain ⟨-, rfl⟩ := List.cons.inj hu
      exact hr rfl
    | cons c t =>
      obtain ⟨d, ds, hd, hne⟩ := stringChar_eq_cons c
      rw [List.flatMap_cons, hd] at hu
      obtain ⟨rfl, -⟩ := List.cons.inj hu
      exact hne rfl
  rw [stringRest?, hshort]
  exact lineString_quote t r

/-! ## 2. What the literal stands for -/

theorem unescapeFrom_cons {state : Escape} (next : Escape) {c : CodePoint} {settled : Text}
    (h : escapeStep false state c = some (settled, next)) (rest : Text) :
    unescapeFrom false state (c :: rest) = (unescapeFrom false next rest).map (settled ++ ·) := by
  rw [unescapeFrom, h, Option.map_eq_bind]
  rfl

theorem escapeStep_hex {value more d : Nat} {c : CodePoint} (hc : c.hexDigit? = some d)
    (hmore : more ≠ 1) :
    escapeStep false (.hex value more) c = some ([], .hex (value * 16 + d) (more - 1)) := by
  simp only [escapeStep, hc, if_neg hmore]

/-- The number of a control character stands for it. -/
theorem unescapeFrom_controlEscape {c : CodePoint} (h : c.val < 0x20) (rest : Text) :
    unescapeFrom false .none (controlEscape c.val ++ rest)
      = (unescapeFrom false .none rest).map (c :: ·) := by
  obtain ⟨htens, hones⟩ := hexDigit?_controlDigits c.val h
  have hvalue : c.val / 16 * 16 + c.val % 16 = c.val := by omega
  have hlast : escapeStep false (.hex (c.val / 16) 1) (controlDigits c.val).2
      = some ([c], .none) := by
    simp only [escapeStep, hones, hvalue, if_pos c.isLt, Json.ofNat_val, if_true]
  have hfirst : escapeStep false (.hex 0 2) (controlDigits c.val).1
      = some ([], .hex (c.val / 16) 1) := by
    rw [escapeStep_hex htens (by decide), Nat.zero_mul, Nat.zero_add]
  simp only [controlEscape, List.cons_append, List.nil_append]
  rw [unescapeFrom_cons .opened rfl, unescapeFrom_cons (.hex 0 4) rfl,
    unescapeFrom_cons (.hex 0 3) rfl, unescapeFrom_cons (.hex 0 2) rfl,
    unescapeFrom_cons _ hfirst, unescapeFrom_cons _ hlast]
  simp only [Option.map_map]
  rfl

/-- A code point is read as it was written. -/
theorem unescapeFrom_stringChar (c : CodePoint) (rest : Text) :
    unescapeFrom false .none (stringChar false c ++ rest)
      = (unescapeFrom false .none rest).map (c :: ·) := by
  rcases Json.stringChar_cases c with
    ⟨d, -, hsolidus, hd, h⟩ | ⟨hcontrol, h⟩ | ⟨-, hslash, -, h⟩
  · have hletter : escapeStep false .opened d = some ([c], .none) := by
      rw [escapeStep, plainEscape?_of_letterEscape? hd hsolidus]
    rw [h, List.cons_append, List.singleton_append,
      unescapeFrom_cons .opened rfl, unescapeFrom_cons _ hletter, Option.map_map]
    rfl
  · rw [h, numericEscape_of_control hcontrol, unescapeFrom_controlEscape hcontrol]
  · have hplain : escapeStep false .none c = some ([c], .none) := by
      rw [escapeStep, if_neg hslash]
      rfl
    rw [h, List.singleton_append, unescapeFrom_cons _ hplain]
    rfl

/-- **The literal of a JSON string stands for its text.** -/
theorem value?_quote (t : Text) :
    StringToken.value? ⟨false, false, false, t.flatMap (stringChar false)⟩ = some t := by
  show unescapeFrom false .none (t.flatMap (stringChar false)) = some t
  induction t with
  | nil => rfl
  | cons c t ih =>
    rw [List.flatMap_cons, unescapeFrom_stringChar, ih]
    rfl

end SongSheet.Script
