import Mathlib.Data.List.TakeWhile
import SongSheet.Proofs.Json.Scalar

/-!
# JSON numbers with a point — written and read

A number that is no integer is written with the digits that tell it from its neighbours, in one of
three layouts. Whether it comes back *as itself* depends on how writer and reader round, and is not
said here. **It comes back as some number with a point**, before any text that does not go on with
it (`exists_read_render`): that is all that a document needs to be read as a whole.

`Decimal` is what the layouts have in common. The reader knows every decimal, and every finite
number is written as one.
-/

set_option autoImplicit false

namespace SongSheet.Json

open Binary64 (pointAnd signText layOut shortest withDigits?)

/-- Digits of ASCII, and nothing else. -/
def AsciiDigits (t : Text) : Prop := ∀ c ∈ t, c.between '0' '9' = true

/-- A number with a point or an exponent, as it is written: digits in front of the point, where a
zero stands alone, digits behind it, and the sign and the digits of an exponent. -/
structure Decimal where
  negative : Bool
  whole : Text
  fraction : Text
  exponent : Option (Bool × Text)
  whole_ne_nil : whole ≠ []
  whole_digits : AsciiDigits whole
  zero_alone : whole.head? = some (.ofChar '0') → whole = [.ofChar '0']
  fraction_digits : AsciiDigits fraction
  exponent_digits : ∀ x ∈ exponent, x.2 ≠ [] ∧ AsciiDigits x.2
  pointed : fraction ≠ [] ∨ exponent.isSome = true

namespace Decimal

/-- The exponent of a decimal as it is written. -/
def exponentText (d : Decimal) : Text :=
  match d.exponent with
  | none => []
  | some (negative, digits) =>
    .ofChar 'e' :: (if negative then .ofChar '-' else .ofChar '+') :: digits

/-- The text of a decimal. -/
def render (d : Decimal) : Text :=
  signText d.negative ++ (d.whole ++ (pointAnd d.fraction [] ++ d.exponentText))

/-- The number that an exponent writes. -/
def power (d : Decimal) : Int :=
  match d.exponent with
  | none => 0
  | some (negative, digits) =>
    if negative then -(Text.readNat digits : Int) else Text.readNat digits

/-- The number that the reader makes of a decimal. -/
def number (d : Decimal) : Binary64 :=
  .ofDecimal d.negative (Text.readNat (d.whole ++ d.fraction)) (d.power - d.fraction.length)

/-! ## 1. Reading a decimal -/

/-- What follows the digits of a decimal is no digit and no point. -/
theorem head?_exponentText (d : Decimal) {r : Text} (hr : Stops r) :
    ∀ c ∈ (d.exponentText ++ r).head?, c.between '0' '9' = false ∧ c ≠ '.' := by
  intro c hc
  rw [exponentText] at hc
  split at hc
  · exact ⟨(hr c hc).1, (hr c hc).2.1⟩
  · cases hc
    decide

theorem whole_append (d : Decimal) {c : CodePoint} {v rest : Text} (hcons : d.whole = c :: v)
    (hrest : ∀ c ∈ rest.head?, c.between '0' '9' = false) :
    (if c = '0' then ([c], v ++ rest) else asciiDigits (c :: (v ++ rest))) = (c :: v, rest) := by
  split
  case isTrue hzero =>
    have hv := d.zero_alone (by rw [hcons, hzero]; rfl)
    rw [hcons] at hv
    obtain ⟨-, rfl⟩ := List.cons.inj hv
    rfl
  case isFalse =>
    have hdigits := d.whole_digits
    rw [hcons] at hdigits
    exact asciiDigits_append hdigits hrest

theorem fraction_append {fs rest : Text} (hfs : AsciiDigits fs)
    (hrest : ∀ c ∈ rest.head?, c.between '0' '9' = false ∧ c ≠ '.') :
    Json.fraction (pointAnd fs [] ++ rest) = (fs, rest) := by
  cases fs with
  | nil =>
    cases rest with
    | nil => rfl
    | cons c rest => exact if_neg (hrest c rfl).2
  | cons d fs =>
    have hdigits : asciiDigits (d :: fs ++ rest) = (d :: fs, rest) :=
      asciiDigits_append hfs fun c hc => (hrest c hc).1
    show Json.fraction (.ofChar '.' :: (d :: fs ++ rest)) = _
    rw [Json.fraction, if_pos rfl, hdigits]
    rfl

theorem exponent?_append (d : Decimal) {r : Text} (hr : Stops r) :
    exponent? (d.exponentText ++ r) = if d.exponent.isSome then some (d.power, r) else none := by
  rw [exponentText, power]
  split
  case h_1 hnone =>
    rw [hnone]
    exact exponent?_of_stops hr
  case h_2 negative digits hsome =>
    obtain ⟨hne, hdigits⟩ := d.exponent_digits _ hsome
    have hread : asciiDigits (digits ++ r) = (digits, r) :=
      asciiDigits_append hdigits fun c hc => (hr c hc).1
    have hempty : digits.isEmpty = false := by simpa using hne
    rw [hsome, List.cons_append, List.cons_append, exponent?, if_pos (.inl rfl)]
    cases negative <;> simp [hread, hempty, CodePoint.ofChar_inj]

/-- **A decimal is read back**, before any text that does not go on with it. -/
theorem number?_render (d : Decimal) {r : Text} (hr : Stops r) :
    number? (d.render ++ r) = some (.float d.number, r) := by
  have hafter := d.head?_exponentText hr
  have hdigit : ∀ c ∈ (pointAnd d.fraction [] ++ (d.exponentText ++ r)).head?,
      c.between '0' '9' = false := by
    intro c hc
    cases hfraction : d.fraction with
    | nil =>
      rw [hfraction] at hc
      exact (hafter c hc).1
    | cons e es =>
      rw [hfraction] at hc
      cases hc
      decide
  obtain ⟨c, v, hcons⟩ := List.exists_cons_of_ne_nil d.whole_ne_nil
  have hc : c.between '0' '9' = true := d.whole_digits c (by simp [hcons])
  have hminus : c ≠ '-' := CodePoint.ne_of_isDigit (CodePoint.isDigit_of_between hc) (by decide)
  have hwhole := d.whole_append hcons hdigit
  have hfraction := fraction_append d.fraction_digits hafter
  have hexponent := d.exponent?_append hr
  have hnumber : d.number = .ofDecimal d.negative (Text.readNat (c :: v ++ d.fraction))
      (d.power - d.fraction.length) := by rw [number, hcons]
  have hempty : (c :: v).isEmpty = false := rfl
  rw [hnumber, render, hcons, number?.eq_def]
  cases hexp : d.exponent with
  | some x =>
    have hsome : d.exponent.isSome = true := by rw [hexp]; rfl
    rw [if_pos hsome] at hexponent
    cases d.negative <;>
      simp only [signText, Bool.false_eq_true, if_false, if_true, List.cons_append, List.nil_append,
        List.append_assoc, if_neg hminus, hwhole, hfraction, hexponent, hempty]
  | none =>
    have hpoint : d.fraction.isEmpty = false := by simpa [hexp] using d.pointed
    have hpower : d.power = 0 := by rw [power, hexp]
    have htext : d.exponentText = [] := by rw [exponentText, hexp]
    have hnone : ¬d.exponent.isSome = true := by simp [hexp]
    rw [if_neg hnone] at hexponent
    cases d.negative <;>
      simp only [signText, Bool.false_eq_true, if_false, if_true, List.cons_append, List.nil_append,
        List.append_assoc, if_neg hminus, hwhole, hfraction, hexponent, hempty, hpoint, hpower,
        Int.zero_sub] <;>
      rw [htext, List.nil_append]

/-- No word starts as a decimal does. -/
theorem word?_render (d : Decimal) (r : Text) : word? (d.render ++ r) = none := by
  obtain ⟨c, v, hcons⟩ := List.exists_cons_of_ne_nil d.whole_ne_nil
  have hc : c.between '0' '9' = true := d.whole_digits c (by simp [hcons])
  have hne : ∀ e : CodePoint, e.isDigit = false → c ≠ e := fun e he =>
    CodePoint.ne_of_isDigit (CodePoint.isDigit_of_between hc) he
  rw [render, hcons]
  cases d.negative with
  | false =>
    exact word?_of_ne _ ⟨hne 'n' (by decide), hne 't' (by decide), hne 'f' (by decide),
      hne 'N' (by decide), hne 'I' (by decide)⟩ (after?_of_ne (hne '-' (by decide)).symm _ _)
  | true =>
    refine word?_of_ne _ ⟨by decide, by decide, by decide, by decide, by decide⟩ ?_
    exact (if_pos rfl).trans (after?_of_ne (hne 'I' (by decide)).symm _ _)

end Decimal

/-! ## 2. Writing one -/

/-- The digits of a number and the exponent of the first: a zero comes first only alone. -/
structure IsSignificand (digits : Text) (first : Int) : Prop where
  ne_nil : digits ≠ []
  ascii : AsciiDigits digits
  zero : digits.head? = some (.ofChar '0') → digits = [.ofChar '0'] ∧ first = 0

theorem isSignificand_zero : IsSignificand [.ofChar '0'] 0 :=
  ⟨by simp, by rintro c hc; rw [List.mem_singleton.mp hc]; decide, fun _ => ⟨rfl, rfl⟩⟩

/-- What reads back as a number other than zero is not zero. -/
theorem withDigits?_ne_zero {m : Nat} {e last : Int} {count digits : Nat} (hm : m ≠ 0)
    (h : withDigits? m e count = some (digits, last)) : digits ≠ 0 := by
  have hzero : ∀ exponent, ¬Binary64.ofDecimal false 0 exponent = .finite false m e := by
    intro exponent hread
    rw [Binary64.ofDecimal, if_pos rfl] at hread
    cases hread
    exact hm rfl
  rintro rfl
  rw [withDigits?] at h
  dsimp only at h
  split at h
  case h_1 hbelow habove =>
    obtain ⟨hdigits, -⟩ := Prod.mk.inj (Option.some.inj h)
    split at hdigits
    · rw [hdigits] at habove
      exact hzero _ (of_decide_eq_true habove)
    · rw [hdigits] at hbelow
      exact hzero _ (of_decide_eq_true hbelow)
  case h_2 hbelow habove =>
    obtain ⟨hdigits, -⟩ := Prod.mk.inj (Option.some.inj h)
    rw [hdigits] at hbelow
    exact hzero _ (of_decide_eq_true hbelow)
  case h_3 hbelow habove =>
    obtain ⟨hdigits, -⟩ := Prod.mk.inj (Option.some.inj h)
    rw [hdigits] at habove
    exact hzero _ (of_decide_eq_true habove)
  case h_4 => cases h

/-- A numeral without the zeros at its end starts as it did. -/
theorem isSignificand_dropZeros {n : Nat} (hn : n ≠ 0) (first : Int) :
    IsSignificand (((Text.ofNat n).reverse.dropWhile (· = (.ofChar '0' : CodePoint))).reverse)
      first := by
  obtain ⟨c, v, hcons⟩ := List.exists_cons_of_ne_nil (Text.ofNat_ne_nil n)
  have hc : c ≠ .ofChar '0' := by
    intro hzero
    refine head?_ofNat (Nat.pos_of_ne_zero hn) ?_
    rw [hcons, hzero, List.head?_cons]
  have hpre : ((Text.ofNat n).reverse.dropWhile (· = (.ofChar '0' : CodePoint))).reverse
      <+: Text.ofNat n := by
    rw [← List.reverse_suffix, List.reverse_reverse]
    exact List.dropWhile_suffix _
  have hne : ((Text.ofNat n).reverse.dropWhile (· = (.ofChar '0' : CodePoint))).reverse ≠ [] := by
    intro hnil
    rw [List.reverse_eq_nil_iff, List.dropWhile_eq_nil_iff] at hnil
    have hall := hnil c (by simp [hcons])
    exact hc (of_decide_eq_true hall)
  refine ⟨hne, fun d hd => Text.between_of_mem_ofNat (hpre.subset hd), fun hzero => ?_⟩
  rw [hcons] at hpre
  obtain ⟨d, w, hkept⟩ := List.exists_cons_of_ne_nil hne
  rw [hcons] at hkept hzero
  rw [hkept] at hpre hzero
  rw [List.cons_prefix_cons] at hpre
  rw [List.head?_cons, hpre.1] at hzero
  exact absurd (Option.some.inj hzero) hc

theorem isSignificand_shortest {m : Nat} (e : Int) (hm : m ≠ 0) :
    IsSignificand (shortest m e).1 (shortest m e).2 := by
  have hdigits :
      (((List.range 17).findSome? fun i => withDigits? m e (i + 1)).getD (m, 0)).1 ≠ 0 := by
    cases hfound : (List.range 17).findSome? fun i => withDigits? m e (i + 1) with
    | none => exact hm
    | some answer =>
      obtain ⟨i, -, hi⟩ := List.exists_of_findSome?_eq_some hfound
      exact withDigits?_ne_zero hm hi
  exact isSignificand_dropZeros hdigits _

theorem asciiDigits_zeros (n : Nat) : AsciiDigits (List.replicate n (.ofChar '0')) := by
  intro c hc
  rw [List.eq_of_mem_replicate hc]
  decide

theorem AsciiDigits.append {t u : Text} (ht : AsciiDigits t) (hu : AsciiDigits u) :
    AsciiDigits (t ++ u) := by
  intro c hc
  rcases List.mem_append.mp hc with hc | hc
  · exact ht c hc
  · exact hu c hc

theorem pointAnd_of_ne_nil {fs : Text} (h : fs ≠ []) (instead : Text) :
    pointAnd fs instead = .ofChar '.' :: fs :=
  if_neg (by simpa using h)

/-- Below one there is a zero in front of the point, and zeros up to the first digit. -/
theorem exists_decimal_below {digits : Text} (hne : digits ≠ []) (h : AsciiDigits digits)
    (negative : Bool) (zeros : Nat) :
    ∃ d : Decimal, signText negative
      ++ (("0." : Text) ++ List.replicate zeros (.ofChar '0') ++ digits) = d.render := by
  have hfraction : List.replicate zeros (.ofChar '0') ++ digits ≠ [] := by simp [hne]
  refine ⟨{
    negative
    whole := [.ofChar '0']
    fraction := List.replicate zeros (.ofChar '0') ++ digits
    exponent := none
    whole_ne_nil := by simp
    whole_digits := asciiDigits_zeros 1
    zero_alone := fun _ => rfl
    fraction_digits := (asciiDigits_zeros zeros).append h
    exponent_digits := by simp
    pointed := .inl hfraction }, ?_⟩
  rw [Decimal.render, Decimal.exponentText]
  dsimp only
  rw [pointAnd_of_ne_nil hfraction, List.append_nil, List.append_assoc]
  rfl

/-- A number that is written out has its last digit in front of the point filled up with zeros, and
one zero behind the point if there is no digit left for it. -/
theorem exists_decimal_positional {digits : Text} {first : Int} (h : IsSignificand digits first)
    (hfirst : 0 ≤ first) (negative : Bool) :
    ∃ d : Decimal, signText negative ++ (digits.take (first.toNat + 1)
      ++ List.replicate (first + 1 - digits.length).toNat (.ofChar '0')
      ++ pointAnd (digits.drop (first.toNat + 1)) ".0") = d.render := by
  obtain ⟨c, v, hcons⟩ := List.exists_cons_of_ne_nil h.ne_nil
  obtain ⟨fraction, hne, hdigits, hpoint⟩ : ∃ fraction, fraction ≠ [] ∧ AsciiDigits fraction
      ∧ pointAnd (digits.drop (first.toNat + 1)) ".0" = .ofChar '.' :: fraction := by
    by_cases hdrop : digits.drop (first.toNat + 1) = []
    · rw [hdrop]
      exact ⟨[.ofChar '0'], by simp, asciiDigits_zeros 1, rfl⟩
    · exact ⟨_, hdrop, fun d hd => h.ascii d (List.mem_of_mem_drop hd), pointAnd_of_ne_nil hdrop _⟩
  refine ⟨{
    negative
    whole := digits.take (first.toNat + 1)
      ++ List.replicate (first + 1 - digits.length).toNat (.ofChar '0')
    fraction
    exponent := none
    whole_ne_nil := by simp [hcons]
    whole_digits := AsciiDigits.append (fun d hd => h.ascii d (List.mem_of_mem_take hd))
      (asciiDigits_zeros _)
    zero_alone := ?_
    fraction_digits := hdigits
    exponent_digits := by simp
    pointed := .inl hne }, ?_⟩
  · intro hzero
    obtain ⟨rfl, rfl⟩ := h.zero (by rw [hcons] at hzero ⊢; exact hzero)
    rfl
  · rw [Decimal.render, Decimal.exponentText]
    dsimp only
    rw [hpoint, pointAnd_of_ne_nil hne, List.append_nil, List.append_assoc]

/-- A number with an exponent has one digit in front of the point, which it may do without. -/
theorem exists_decimal_scaled {digits : Text} {first : Int} (h : IsSignificand digits first)
    (negative : Bool) (zeros : Nat) :
    ∃ d : Decimal, signText negative ++ (digits.take 1 ++ pointAnd (digits.drop 1) []
      ++ (if first < 0 then ("e-" : Text) else "e+") ++ List.replicate zeros (.ofChar '0')
      ++ Text.ofNat first.natAbs) = d.render := by
  obtain ⟨c, v, hcons⟩ := List.exists_cons_of_ne_nil h.ne_nil
  have hascii := h.ascii
  rw [hcons] at hascii ⊢
  refine ⟨{
    negative
    whole := [c]
    fraction := v
    exponent := some (first < 0, List.replicate zeros (.ofChar '0') ++ Text.ofNat first.natAbs)
    whole_ne_nil := by simp
    whole_digits := fun d hd => hascii d (by simp at hd ⊢; exact .inl hd)
    zero_alone := fun hzero => by rw [Option.some.inj hzero]
    fraction_digits := fun d hd => hascii d (List.mem_cons_of_mem _ hd)
    exponent_digits := ?_
    pointed := .inr rfl }, ?_⟩
  · rintro x ⟨⟩
    exact ⟨by simp, (asciiDigits_zeros zeros).append fun d => Text.between_of_mem_ofNat⟩
  · rw [Decimal.render, Decimal.exponentText]
    dsimp only
    split <;> simp [*, Text.ofString]

/-- The layout of JSON writes a significand as a decimal. -/
theorem exists_decimal_layOut {digits : Text} {first : Int} (h : IsSignificand digits first)
    (negative : Bool) :
    ∃ d : Decimal, signText negative ++ layOut floatLayout digits first = d.render := by
  rw [layOut]
  dsimp only
  split
  · split
    · exact exists_decimal_below h.ne_nil h.ascii negative _
    case isFalse hfirst => exact exists_decimal_positional h (Int.not_lt.mp hfirst) negative
  · exact exists_decimal_scaled h negative _

/-- **A finite number is written as a decimal.** -/
theorem exists_decimal (negative : Bool) (m : Nat) (e : Int) :
    ∃ d : Decimal, (Binary64.finite negative m e).render floatLayout = d.render := by
  by_cases hm : m = 0
  · obtain ⟨d, hd⟩ := exists_decimal_layOut isSignificand_zero negative
    refine ⟨d, ?_⟩
    rw [← hd, Binary64.render, if_pos hm]
  · obtain ⟨d, hd⟩ := exists_decimal_layOut (isSignificand_shortest e hm) negative
    refine ⟨d, ?_⟩
    rw [← hd, Binary64.render, if_neg hm]

/-! ## 3. Both -/

/-- **A number with a point is read back as one**, before any text that does not go on with it. -/
theorem exists_read_render (x : Binary64) :
    ∃ y, ∀ r, Stops r → (word? (x.render floatLayout ++ r)).or (number? (x.render floatLayout ++ r))
      = some (.float y, r) := by
  cases x with
  | nan => exact ⟨.nan, fun _ _ => rfl⟩
  | infinite negative =>
    refine ⟨.infinite negative, fun _ _ => ?_⟩
    cases negative <;> rfl
  | finite negative m e =>
    obtain ⟨d, hd⟩ := exists_decimal negative m e
    refine ⟨d.number, fun r hr => ?_⟩
    rw [hd, d.word?_render, Option.none_or, d.number?_render hr]

/-- A number with a point starts with a digit, with its sign, or with the letter of a word. -/
theorem exists_render_cons (x : Binary64) :
    ∃ c t, x.render floatLayout = c :: t ∧ (c ∈ ("-NI" : Text) ∨ c.between '0' '9' = true) := by
  cases x with
  | nan => exact ⟨.ofChar 'N', _, rfl, .inl (by decide)⟩
  | infinite negative =>
    cases negative with
    | false => exact ⟨.ofChar 'I', _, rfl, .inl (by decide)⟩
    | true => exact ⟨.ofChar '-', _, rfl, .inl (by decide)⟩
  | finite negative m e =>
    obtain ⟨d, hd⟩ := exists_decimal negative m e
    obtain ⟨c, v, hcons⟩ := List.exists_cons_of_ne_nil d.whole_ne_nil
    rw [hd, Decimal.render, hcons]
    cases d.negative with
    | false => exact ⟨c, _, rfl, .inr (d.whole_digits c (by simp [hcons]))⟩
    | true => exact ⟨.ofChar '-', _, rfl, .inl (by decide)⟩

end SongSheet.Json
