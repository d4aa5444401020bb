import SongSheet.Encoding.Chinese
import SongSheet.Encoding.Japanese
import SongSheet.Encoding.Korean

/-!
# ISO 2022

Encodings in seven bits that switch between sets of characters. An escape sequence says which set is
in one of three places: the first one is used as a rule, the second one between two shift
characters, the third one for a single character behind an escape sequence of its own. At first
ASCII is in all places.
-/

set_option autoImplicit false

namespace SongSheet

namespace Iso2022

/-- A set of characters that a place can hold. -/
inductive Grid where
  | ascii
  | jisRoman
  | jisKatakana
  | jis0208
  | jis0212
  | jis0213One (edition : Japanese.Edition)
  | jis0213Two
  | gb2312
  | ksx1001
  /-- The upper half of Latin-1. -/
  | latin1
  /-- The upper half of ISO 8859-7. -/
  | greek
  deriving DecidableEq, Repr

/-- How many octets a character of a set has. -/
def Grid.width : Grid → Nat
  | ascii | jisRoman | jisKatakana | latin1 | greek => 1
  | _ => 2

/-- A set by the end of its escape sequence, and whether the sequence is one for two octets. -/
structure Designation where
  isDouble : Bool
  final : Char
  grid : Grid

/-- A variant of ISO 2022. -/
structure Variant where
  codec : String
  designations : List Designation
  /-- The second place is used between two shift characters. -/
  hasShift : Bool := false
  /-- The third place is used. -/
  hasThird : Bool := false
  /-- A set of characters may be announced in a revised form. -/
  hasRevision : Bool := true

/-- Where the reading stands. -/
structure State where
  first : Grid := .ascii
  second : Grid := .ascii
  third : Grid := .ascii
  /-- The second place is in use. -/
  isShifted : Bool := false
  /-- An escape sequence of another kind is let through. -/
  isLetThrough : Bool := false

/-- The end of an escape sequence. -/
def isFinal (b : UInt8) : Bool := octetIn 0x41 0x5A b || b = 0x40

/-- How long the escape sequence is that begins with these octets behind its escape character:
nothing if it does not end among them, zero if it has no end within the limit. Behind an ampersand,
an at sign does not end it in a variant with revisions. -/
def sequenceLength (hasRevision : Bool) : Nat → Nat → List UInt8 → Option Nat
  | 0, _, _ => some 0
  | _, _, [] => none
  | limit + 1, length, b :: rest =>
    if isFinal b then some (length + 1)
    else
      match rest with
      | c :: more =>
        if hasRevision && b = 0x26 && c = 0x40 then
          match limit, more with
          | 0, _ | 1, _ => some 0
          | _ + 2, [] => none
          | limit + 2, _ :: rest => sequenceLength hasRevision limit (length + 3) rest
        else sequenceLength hasRevision limit (length + 1) (c :: more)
      | [] => sequenceLength hasRevision limit (length + 1) []

/-- The most octets in an escape sequence. -/
def sequenceLimit : Nat := 16

/-- A set put in a place: the first, the second or the third. -/
def State.put (s : State) (place : Nat) (grid : Grid) : State :=
  match place with
  | 0 => { s with first := grid }
  | 1 => { s with second := grid }
  | _ => { s with third := grid }

/-- The place, and the end for one octet or for two, that the octets of an escape sequence behind
its escape character name. Whatever announces a revised form, the set is JIS X 0208. -/
def named? (v : Variant) : List UInt8 → Option (Nat × Bool × UInt8)
  | [0x24, final] => some (0, true, final)
  | [0x28, final] => some (0, false, final)
  | [0x29, final] => some (1, false, final)
  | [0x2E, final] => if v.hasThird then some (2, false, final) else none
  | [0x24, 0x28, final] => some (0, true, final)
  | [0x24, 0x29, final] => some (1, true, final)
  | [_, _, 0x1B, 0x24, 0x42] => if v.hasRevision then some (0, true, 0x42) else none
  | _ => none

/-- The set of an end. -/
def Variant.grid? (v : Variant) (isDouble : Bool) (final : UInt8) : Option Grid :=
  if !isDouble && final = 0x42 then some .ascii
  else
    (v.designations.find? fun d =>
      d.isDouble = isDouble && d.final.toNat = final.toNat).map (·.grid)

/-- What an escape sequence does. -/
def escape (v : Variant) (s : State) (rest : List UInt8) : Front State :=
  match sequenceLength v.hasRevision (sequenceLimit - 1) 1 rest with
  | none => .incomplete
  | some 0 => .illegal 1
  | some length =>
    let set := (named? v (rest.take (length - 1))).bind fun (place, isDouble, final) =>
      (v.grid? isDouble final).map fun grid => s.put place grid
    match set with
    | some s => .text [] length s
    | none => .illegal length

/-- The upper half of ISO 8859-7, from A0 on. -/
def greekCharacters : Text :=
  ("\xa0‘’£€₯¦§¨©ͺ«¬\xad\ufffd―°±²³΄΅Ά·ΈΉΊ»Ό½ΎΏΐΑΒΓΔΕΖΗΘΙΚΛΜΝΞΟΠΡ\ufffdΣΤΥΦΧΨΩΪΫάέήί" : Text)
    ++ "ΰαβγδεζηθικλμνξοπρςστυφχψωϊϋόύώ\ufffd"

/-- The single character of a set in the third place. -/
def thirdCharacter? (grid : Grid) (b : UInt8) : Option CodePoint :=
  if 0x80 ≤ b.toNat then none
  else
    match grid with
    | .latin1 => some (.ofNat (b.toNat + 0x80))
    | .greek =>
      if b.toNat < 0x20 then some (.ofNat (b.toNat + 0x80))
      else (greekCharacters[b.toNat - 0x20]?).filter (·.val ≠ 0xFFFD)
    | _ => some (.ofNat b.toNat)

/-- What a place of the planes of JIS X 0213 holds. -/
def placeText? : Japanese.Place → Option Text
  | .text t => some t
  | .later | .nothing => none

/-- The text of a character of one octet in a set. -/
def singleText? (grid : Grid) (a : UInt8) : Option Text :=
  match grid with
  | .jisRoman => if a.toNat < 0x80 then some [Japanese.roman a] else none
  | .jisKatakana =>
    let b := a.toNat + 0x80
    if 0xA1 ≤ b ∧ b ≤ 0xDF then some [Japanese.katakana b.toUInt8] else none
  | _ => none

/-- The text of a character of two octets in a set. -/
def doubleText? (grid : Grid) (a b : UInt8) : Option Text :=
  match grid with
  | .jis0208 => jis0208.text? a b
  | .jis0212 => jis0212.text? a b
  | .jis0213One edition => placeText? (Japanese.planeOne edition (Charset.number a b))
  | .jis0213Two => placeText? (Japanese.planeTwo .of2004 (Charset.number a b))
  | .gb2312 => SongSheet.gb2312.text? a b
  | .ksx1001 => SongSheet.ksx1001.text? a b
  | _ => none

/-- What is in front of octets that begin with a character of a set. -/
def character (s : State) (grid : Grid) (a : UInt8) (rest : List UInt8) : Front State :=
  if grid.width = 1 then
    match singleText? grid a with
    | some t => .text t 1 s
    | none => .illegal 1
  else
    match rest with
    | [] => .incomplete
    | b :: _ =>
      match doubleText? grid a b with
      | some t => .text t 2 s
      | none => .illegal 2

/-- What is in front of octets. -/
def front (v : Variant) (s : State) (a : UInt8) (rest : List UInt8) : Front State :=
  let own (s : State) : Front State := .one s (.ofNat a.toNat)
  if s.isLetThrough then own { s with isLetThrough := !isFinal a }
  else if a = 0x1B then
    match rest with
    | [] => .incomplete
    | b :: more =>
      if b = 0x28 ∨ b = 0x29 ∨ b = 0x24 ∨ b = 0x2E ∨ b = 0x26 then escape v s rest
      else if v.hasThird && b = 0x4E then
        match more with
        | [] => .incomplete
        | c :: _ =>
          match thirdCharacter? s.third c with
          | some t => .text [t] 3 s
          | none => .illegal 3
      else own { s with isLetThrough := true }
  else if a = 0x0F ∧ v.hasShift then .text [] 1 { s with isShifted := false }
  else if a = 0x0E ∧ v.hasShift then .text [] 1 { s with isShifted := true }
  else if a = 0x0A then own { s with isShifted := false }
  else if a.toNat < 0x20 then own s
  else if 0x80 ≤ a.toNat then .illegal 1
  else
    let grid := if s.isShifted then s.second else s.first
    if grid = .ascii then own s else character s grid a rest

/-! ## Variants -/

/-- JIS X 0208 and the Japanese form of ASCII. -/
def japanese : List Designation :=
  [⟨true, 'B', .jis0208⟩, ⟨true, '@', .jis0208⟩, ⟨false, 'J', .jisRoman⟩]

/-- JIS X 0212. -/
def japaneseFurther : Designation := ⟨true, 'D', .jis0212⟩

/-- All variants. -/
def variants : List Variant :=
  [{ codec := "iso2022_jp", designations := japanese },
    { codec := "iso2022_jp_1", designations := japaneseFurther :: japanese },
    { codec := "iso2022_jp_2"
      designations :=
        [japaneseFurther, ⟨true, 'C', .ksx1001⟩, ⟨true, 'A', .gb2312⟩, ⟨false, 'A', .latin1⟩,
          ⟨false, 'F', .greek⟩] ++ japanese
      hasThird := true },
    { codec := "iso2022_jp_2004"
      designations :=
        [⟨true, 'B', .jis0208⟩, ⟨true, 'Q', .jis0213One .of2004⟩, ⟨true, 'P', .jis0213Two⟩] },
    { codec := "iso2022_jp_3"
      designations :=
        [⟨true, 'B', .jis0208⟩, ⟨true, 'O', .jis0213One .of2000⟩, ⟨true, 'P', .jis0213Two⟩] },
    { codec := "iso2022_jp_ext"
      designations := [japaneseFurther, ⟨false, 'I', .jisKatakana⟩] ++ japanese },
    { codec := "iso2022_kr"
      designations := [⟨true, 'C', .ksx1001⟩]
      hasShift := true
      hasRevision := false }]

/-- A variant as an encoding. Its other names have an underscore more, or one less. -/
def Variant.encoding (v : Variant) : Encoding :=
  let tail := (v.codec.drop 7).toString
  .ofDecoder v.codec
    (["iso2022" ++ (tail.drop 1).toString, "iso_2022" ++ tail]
      ++ if tail = "_jp" ∨ tail = "_kr" then ["csiso2022" ++ (tail.drop 1).toString] else [])
    (Front.decode v.codec (front v) {})

end Iso2022

/-- The variants of ISO 2022 as encodings. -/
def iso2022Encodings : List Encoding := Iso2022.variants.map Iso2022.Variant.encoding

end SongSheet
