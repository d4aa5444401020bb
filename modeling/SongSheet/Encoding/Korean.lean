import SongSheet.Encoding.Basic
import SongSheet.Encoding.Charset.Ksx1001

/-!
# Encodings of Korean

KS X 1001 has only some of the syllables that can be formed. EUC spells the others in eight octets,
code page 949 lists them in places that KS X 1001 leaves free, and Johab writes every syllable by
the numbers of its sounds.
-/

set_option autoImplicit false

namespace SongSheet

namespace Korean

/-! ## Syllables -/

/-- The syllable of sounds by their indexes. -/
def syllable (lead vowel trail : Nat) : CodePoint :=
  .ofNat (0xAC00 + (lead * 21 + vowel) * 28 + trail)

/-- How many syllables there are. -/
def syllableCount : Nat := 11172

/-- The places of the leading consonants among the letters from U+3131 on. -/
def leadLetters : List Nat := [0, 1, 3, 6, 7, 8, 16, 17, 18, 20, 21, 22, 23, 24, 25, 26, 27, 28, 29]

/-- The places of the trailing consonants among the letters from U+3131 on. -/
def trailLetters : List Nat :=
  [0, 1, 2, 3, 4, 5, 6, 8, 9, 10, 11, 12, 13, 14, 15, 16, 17, 19, 20, 21, 22, 23, 25, 26, 27, 28,
    29]

/-- The letter in a place. Thirty consonants come before the vowels. -/
def letter (place : Nat) : CodePoint := .ofNat (0x3131 + place)

/-! ## EUC -/

/-- The syllable that four letters of EUC spell: a mark, a leading consonant, a vowel and a trailing
consonant, which may be the mark again. -/
def spelled? (lead vowel trail : UInt8) : Option CodePoint := do
  let l ← leadLetters.idxOf? (lead.toNat - 0xA1)
  let v ← if octetIn 0xBF 0xD3 vowel then some (vowel.toNat - 0xBF) else none
  let t ←
    if trail = 0xD4 then some 0
    else (trailLetters.idxOf? (trail.toNat - 0xA1)).map (· + 1)
  if octetIn 0xA1 0xBE lead && (trail = 0xD4 || octetIn 0xA1 0xBE trail) then
    return syllable l v t
  else none

/-- What is in front of octets of EUC. -/
def eucFront (_ : Unit) (a : UInt8) (rest : List UInt8) : Front Unit :=
  .asciiOr () a <|
    match rest with
    | [] => .incomplete
    | b :: more =>
      if a = 0xA4 ∧ b = 0xD4 then
        match more with
        | c :: lead :: d :: vowel :: e :: trail :: _ =>
          if c = 0xA4 ∧ d = 0xA4 ∧ e = 0xA4 then
            match spelled? lead vowel trail with
            | some c => .text [c] 8 ()
            | none => .illegal 1
          else .illegal 1
        | _ => .incomplete
      else .two () rest (ksx1001.high? a)

/-! ## Code page 949 -/

/-- From increasing numbers, those of a stretch that are not among them. -/
def lacking : Nat → Nat → List Nat → List Nat
  | 0, _, _ => []
  | count + 1, n, [] => n :: lacking count (n + 1) []
  | count + 1, n, m :: ms =>
    if n = m then lacking count (n + 1) ms else n :: lacking count (n + 1) (m :: ms)

/-- The syllables that KS X 1001 lacks, in order. -/
def furtherSyllables : Array Nat :=
  let present := ksx1001.flatMap fun (_, run) => run.map (·.val)
  (lacking syllableCount 0xAC00
    (present.filter fun n => 0xAC00 ≤ n && n < 0xAC00 + syllableCount)).toArray

/-- The place among further syllables of two octets: in the first rows all cells are free, in the
others those that EUC leaves free. -/
def furtherPlace? (a b : UInt8) : Option Nat :=
  let cell : Option Nat :=
    if octetIn 0x41 0x5A b then some (b.toNat - 0x41)
    else if octetIn 0x61 0x7A b then some (b.toNat - 0x61 + 26)
    else if octetIn 0x81 0xFE b then some (b.toNat - 0x81 + 52)
    else none
  cell.bind fun cell =>
    if octetIn 0x81 0xA0 a then some ((a.toNat - 0x81) * 178 + cell)
    else if octetIn 0xA1 0xC6 a && cell < 84 then some (32 * 178 + (a.toNat - 0xA1) * 84 + cell)
    else none

/-- A character of code page 949. -/
def unified? (a b : UInt8) : Option Text :=
  (ksx1001.high? a b).or
    ((furtherPlace? a b).bind fun place => (furtherSyllables[place]?).map fun n => [.ofNat n])

/-! ## Johab -/

/-- A sound of Johab. -/
inductive Sound where
  | blank
  /-- The sound with an index. -/
  | sound (index : Nat)

/-- The leading consonant with a number of five bits. -/
def leadSound? (n : Nat) : Option Sound :=
  if n = 1 then some .blank
  else if 2 ≤ n ∧ n ≤ 20 then some (.sound (n - 2))
  else none

/-- The vowel with a number of five bits; of every eight numbers the first two are no vowels. -/
def vowelSound? (n : Nat) : Option Sound :=
  if n = 2 then some .blank
  else if 3 ≤ n ∧ n ≤ 29 ∧ 2 ≤ n % 8 then some (.sound (n / 8 * 6 + n % 8 - 3))
  else none

/-- The trailing consonant with a number of five bits. -/
def trailSound? (n : Nat) : Option Sound :=
  if n = 1 then some .blank
  else if 2 ≤ n ∧ n ≤ 17 then some (.sound (n - 2))
  else if 19 ≤ n ∧ n ≤ 29 then some (.sound (n - 3))
  else none

/-- The character that sounds make: a syllable, a single letter, or a blank. -/
def ofSounds? : Sound → Sound → Sound → Option CodePoint
  | .sound l, .sound v, .blank => some (syllable l v 0)
  | .sound l, .sound v, .sound t => some (syllable l v (t + 1))
  | .sound l, .blank, .blank => (leadLetters[l]?).map letter
  | .blank, .sound v, .blank => some (letter (v + 30))
  | .blank, .blank, .sound t => (trailLetters[t]?).map letter
  | .blank, .blank, .blank => some (.ofNat 0x3000)
  | _, _, _ => none

/-- A character of Johab that is written by its sounds. -/
def bySounds? (a b : UInt8) : Option CodePoint := do
  let n := Charset.number a b
  ofSounds? (← leadSound? (n / 0x400 % 32)) (← vowelSound? (n / 0x20 % 32))
    (← trailSound? (n % 32))

/-- A character of Johab that is written by its row and its cell in KS X 1001. The letters and the
syllables have no such place. -/
def byPlace? (a b : UInt8) : Option CodePoint :=
  if a.toNat < 0xD9 ∨ a = 0xDF ∨ 0xF9 < a.toNat ∨ !(octetIn 0x31 0x7E b || octetIn 0x91 0xFE b)
      ∨ (a = 0xDA && octetIn 0xA1 0xD3 b) then none
  else
    let pair := if a.toNat < 0xE0 then 2 * (a.toNat - 0xD9) else 2 * a.toNat - 0x197
    let cell := if b.toNat < 0x91 then b.toNat - 0x31 else b.toNat - 0x43
    let (row, cell) := if cell < 94 then (pair, cell) else (pair + 1, cell - 94)
    ksx1001.find? ((row + 0x21) * 256 + cell + 0x21)

/-- A character of Johab. -/
def johab? (a b : UInt8) : Option Text :=
  (if a.toNat < 0xD8 then bySounds? a b else byPlace? a b).map ([·])

end Korean

open Korean in
/-- Encodings of Korean. -/
def koreanEncodings : List Encoding :=
  [.ofDecoder "euc_kr"
      ["euckr", "korean", "ks_c_5601", "ks_c_5601_1987", "ks_x_1001", "ksc5601", "ksx1001",
        "x_mac_korean"]
      (Front.decode "euc_kr" eucFront ()),
    .ofDecoder "cp949" ["949", "ms949", "uhc"] (Front.decodePairs "cp949" unified?),
    .ofDecoder "johab" ["cp1361", "ms1361"] (Front.decodePairs "johab" johab?)]

end SongSheet
