import SongSheet.Encoding.Utf8
import SongSheet.Proofs.Traversal

/-!
# UTF-8 — written and read back

The reader goes octet by octet and narrows what may come next, so that every code point has one
form. The writer's form is the one that it takes: **a text that has octets is what is read of them**
(`decode_encode`), and texts with the same octets are the same.
-/

set_option autoImplicit false

namespace SongSheet.Utf8

/-! ## 1. Octet by octet -/

theorem toNat_toUInt8 {n : Nat} (h : n < 0x100) : n.toUInt8.toNat = n :=
  (UInt8.toNat_ofNat').trans (Nat.mod_eq_of_lt h)

theorem toNat_tail (n : Nat) : (tail n).toNat = 0x80 + n % 0x40 :=
  toNat_toUInt8 (by omega)

variable {position : Nat} {rest : List UInt8} {p : Pending}

/-- An octet that begins a code point of more than one leaves it pending. -/
theorem decodeFrom_begin {b : UInt8} (h : begin? b = some p) :
    decodeFrom position none (b :: rest) = decodeFrom (position + 1) (some p) rest := by
  have hlow : ¬b.toNat < 0x80 := by
    intro hascii
    rw [begin?] at h
    split_ifs at h <;> omega
  rw [decodeFrom, if_neg hlow, h]

/-- The last octet of a code point completes it. -/
theorem decodeFrom_last {n : Nat} (hmissing : p.missing = 1)
    (hrange : p.low ≤ 0x80 + n % 0x40 ∧ 0x80 + n % 0x40 ≤ p.high) :
    decodeFrom position (some p) (tail n :: rest)
      = (decodeFrom (position + 1) none rest).map
        (CodePoint.ofNat (p.value * 0x40 + n % 0x40) :: ·) := by
  have hbits : (0x80 + n % 0x40) % 0x40 = n % 0x40 := by omega
  rw [decodeFrom, toNat_tail, if_pos hrange, hbits]
  exact if_pos (Nat.le_of_eq hmissing)

/-- Any other octet leaves it pending, and the one behind is not limited. -/
theorem decodeFrom_more {n : Nat} (hmissing : 1 < p.missing)
    (hrange : p.low ≤ 0x80 + n % 0x40 ∧ 0x80 + n % 0x40 ≤ p.high) :
    decodeFrom position (some p) (tail n :: rest)
      = decodeFrom (position + 1)
        (some ⟨p.first, p.taken + 1, p.missing - 1, 0x80, 0xBF, p.value * 0x40 + n % 0x40⟩)
        rest := by
  have hbits : (0x80 + n % 0x40) % 0x40 = n % 0x40 := by omega
  rw [decodeFrom, toNat_tail, if_pos hrange, hbits]
  exact if_neg (Nat.not_le.mpr hmissing)

/-! ## 2. Code point by code point -/

theorem ofNat_val (c : CodePoint) : CodePoint.ofNat c.val = c := dif_pos c.isLt

/-- The octets of a code point are read as that code point. The cases are the widths; in each, the
first octet sets its limits, and the bits of all of them add up. -/
theorem decodeFrom_encodeChar {c : CodePoint} (h : c.isSurrogate = false) (position : Nat)
    (rest : List UInt8) :
    ∃ next, decodeFrom position none (encodeChar c ++ rest)
      = (decodeFrom next none rest).map (c :: ·) := by
  have hsurrogate : ¬(0xD800 ≤ c.val ∧ c.val < 0xE000) := by
    simpa [CodePoint.isSurrogate] using h
  have hlt := c.isLt
  have hself := ofNat_val c
  generalize hn : c.val = n at *
  rw [encodeChar, width, hn]
  by_cases hone : n < 0x80
  · have hoctet : n.toUInt8.toNat = n := toNat_toUInt8 (by omega)
    rw [if_pos hone]
    refine ⟨position + 1, ?_⟩
    show decodeFrom position none (n.toUInt8 :: rest) = _
    rw [decodeFrom, hoctet, if_pos hone, hself]
  by_cases htwo : n < 0x800
  · have hoctet : (0xC0 + n / 0x40).toUInt8.toNat = 0xC0 + n / 0x40 := toNat_toUInt8 (by omega)
    have hbegin : begin? (0xC0 + n / 0x40).toUInt8
        = some ⟨(0xC0 + n / 0x40).toUInt8, 1, 1, 0x80, 0xBF, n / 0x40⟩ := by
      rw [begin?, hoctet, if_pos (by omega), Nat.add_sub_cancel_left]
    have hvalue : n / 0x40 * 0x40 + n % 0x40 = n := by omega
    rw [if_neg hone, if_pos htwo]
    refine ⟨position + 2, ?_⟩
    show decodeFrom position none ((0xC0 + n / 0x40).toUInt8 :: tail n :: rest) = _
    rw [decodeFrom_begin hbegin, decodeFrom_last rfl ⟨by simp only; omega, by simp only; omega⟩,
      hvalue, hself]
  by_cases hthree : n < 0x10000
  · have hoctet : (0xE0 + n / 0x1000).toUInt8.toNat = 0xE0 + n / 0x1000 := toNat_toUInt8 (by omega)
    have hbegin : begin? (0xE0 + n / 0x1000).toUInt8
        = some ⟨(0xE0 + n / 0x1000).toUInt8, 1, 2, if n / 0x1000 = 0 then 0xA0 else 0x80,
          if n / 0x1000 = 0xD then 0x9F else 0xBF, n / 0x1000⟩ := by
      have hlow : 0xE0 + n / 0x1000 = 0xE0 ↔ n / 0x1000 = 0 := by omega
      have hhigh : 0xE0 + n / 0x1000 = 0xED ↔ n / 0x1000 = 0xD := by omega
      rw [begin?, hoctet, if_neg (by omega), if_pos (by omega), Nat.add_sub_cancel_left]
      simp only [hlow, hhigh]
    have hvalue : (n / 0x1000 * 0x40 + n / 0x40 % 0x40) * 0x40 + n % 0x40 = n := by omega
    rw [if_neg hone, if_neg htwo, if_pos hthree]
    refine ⟨position + 3, ?_⟩
    show decodeFrom position none
      ((0xE0 + n / 0x1000).toUInt8 :: tail (n / 0x40) :: tail n :: rest) = _
    have hrange : (if n / 0x1000 = 0 then 0xA0 else 0x80) ≤ 0x80 + n / 0x40 % 0x40
        ∧ 0x80 + n / 0x40 % 0x40 ≤ (if n / 0x1000 = 0xD then 0x9F else 0xBF) := by
      split_ifs <;> omega
    rw [decodeFrom_begin hbegin, decodeFrom_more (by simp only; omega) hrange,
      decodeFrom_last rfl ⟨by simp only; omega, by simp only; omega⟩, hvalue, hself]
  · have hoctet : (0xF0 + n / 0x40000).toUInt8.toNat = 0xF0 + n / 0x40000 :=
      toNat_toUInt8 (by omega)
    have hbegin : begin? (0xF0 + n / 0x40000).toUInt8
        = some ⟨(0xF0 + n / 0x40000).toUInt8, 1, 3, if n / 0x40000 = 0 then 0x90 else 0x80,
          if n / 0x40000 = 4 then 0x8F else 0xBF, n / 0x40000⟩ := by
      have hlow : 0xF0 + n / 0x40000 = 0xF0 ↔ n / 0x40000 = 0 := by omega
      have hhigh : 0xF0 + n / 0x40000 = 0xF4 ↔ n / 0x40000 = 4 := by omega
      rw [begin?, hoctet, if_neg (by omega), if_neg (by omega), if_pos (by omega),
        Nat.add_sub_cancel_left]
      simp only [hlow, hhigh]
    have hvalue : ((n / 0x40000 * 0x40 + n / 0x1000 % 0x40) * 0x40 + n / 0x40 % 0x40) * 0x40
        + n % 0x40 = n := by omega
    rw [if_neg hone, if_neg htwo, if_neg hthree]
    refine ⟨position + 4, ?_⟩
    show decodeFrom position none
      ((0xF0 + n / 0x40000).toUInt8 :: tail (n / 0x1000) :: tail (n / 0x40) :: tail n :: rest) = _
    have hrange : (if n / 0x40000 = 0 then 0x90 else 0x80) ≤ 0x80 + n / 0x1000 % 0x40
        ∧ 0x80 + n / 0x1000 % 0x40 ≤ (if n / 0x40000 = 4 then 0x8F else 0xBF) := by
      split_ifs <;> omega
    rw [decodeFrom_begin hbegin, decodeFrom_more (by simp only; omega) hrange,
      decodeFrom_more (by simp only; omega) ⟨by simp only; omega, by simp only; omega⟩,
      decodeFrom_last rfl ⟨by simp only; omega, by simp only; omega⟩, hvalue, hself]

/-! ## 3. Texts -/

/-- **A text that has octets is what is read of them.** -/
theorem decode_encode {t : Text} {octets : List UInt8} (h : encode t = some octets) :
    decode octets = .ok t := by
  rw [encode] at h
  split at h
  case isTrue => cases h
  case isFalse hnone =>
    cases h
    have hall : ∀ c ∈ t, c.isSurrogate = false := by
      simpa using hnone
    have hfrom : ∀ position, decodeFrom position none (t.flatMap encodeChar) = .ok t := by
      clear hnone
      induction t with
      | nil => exact fun _ => rfl
      | cons c t ih =>
        intro position
        obtain ⟨next, hnext⟩ :=
          decodeFrom_encodeChar (hall c (by simp)) position (t.flatMap encodeChar)
        rw [List.flatMap_cons, hnext, ih fun d hd => hall d (by simp [hd])]
        rfl
    exact hfrom 0

/-- Texts with the same octets are the same. -/
theorem encode_injective {t t' : Text} {octets : List UInt8} (h : encode t = some octets)
    (h' : encode t' = some octets) : t = t' :=
  Except.ok.inj ((decode_encode h).symm.trans (decode_encode h'))

end SongSheet.Utf8
