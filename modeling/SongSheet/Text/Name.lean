import SongSheet.Text
import SongSheet.Text.Name.Alphabet
import SongSheet.Text.Name.Further
import SongSheet.Text.Name.History
import SongSheet.Text.Name.Picture
import SongSheet.Text.Name.Syllable
import SongSheet.Text.Name.Symbol

/-!
# Names of code points

`CodePoint.named?` finds a code point by its name in Unicode 14.0, in either case. The names of
syllables and of ideographs follow rules, and only those of the other code points are listed.

A table of names is a text of entries, each on its own line or after a semicolon. An entry is a
digit and words: the name is made of that many words of the name before it and of these words. The
code point is the one after that of the entry before, or it stands in front, in hexadecimal digits
and with an equals sign.
-/

set_option autoImplicit false

namespace SongSheet

namespace CodePoint

/-! ## Names by rule -/

/-- The sounds that a syllable may start with, in the order of the syllables. -/
def leadingSounds : List String :=
  ["G", "GG", "N", "D", "DD", "R", "M", "B", "BB", "S", "SS", "", "J", "JJ", "C", "K", "T", "P",
    "H"]

/-- The vowels of a syllable. -/
def vowelSounds : List String :=
  ["A", "AE", "YA", "YAE", "EO", "E", "YEO", "YE", "O", "WA", "WAE", "OE", "YO", "U", "WEO", "WE",
    "WI", "YU", "EU", "YI", "I"]

/-- The sounds that a syllable may end with. -/
def trailingSounds : List String :=
  ["", "G", "GG", "GS", "N", "NJ", "NH", "D", "L", "LG", "LM", "LB", "LS", "LT", "LP", "LH", "M",
    "B", "BS", "S", "SS", "NG", "J", "C", "K", "T", "P", "H"]

/-- The longest of some sounds at the front of a text: its index among them and the rest. -/
def sound? (sounds : List String) (t : Text) : Option (Nat × Text) :=
  sounds.zipIdx.foldl (fun best (s, index) =>
    match Text.after? s t, best with
    | none, _ => best
    | some rest, none => some (index, rest)
    | some rest, some (_, shortest) =>
      if rest.length < shortest.length then some (index, rest) else best) none

/-- The syllable with these sounds. -/
def syllable? (t : Text) : Option CodePoint := do
  let (lead, t) ← sound? leadingSounds t
  let (vowel, t) ← sound? vowelSounds t
  let (trail, t) ← sound? trailingSounds t
  if t.isEmpty then
    return .ofNat (0xAC00 + (lead * vowelSounds.length + vowel) * trailingSounds.length + trail)
  else none

/-- The number that four or five hexadecimal digits write, letters in upper case. -/
def hexSuffix? (digits : Text) : Option Nat :=
  if (digits.length = 4 ∨ digits.length = 5) ∧
      digits.all (fun c => c.between '0' '9' || c.between 'A' 'F') then
    some (Text.hexNumber digits)
  else none

/-- The runs of unified ideographs, ends included. -/
def unifiedIdeographs : List (Nat × Nat) :=
  [(0x3400, 0x4DBF), (0x4E00, 0x9FFF), (0x20000, 0x2A6DF), (0x2A700, 0x2B738), (0x2B740, 0x2B81D),
    (0x2B820, 0x2CEA1), (0x2CEB0, 0x2EBE0), (0x30000, 0x3134A)]

/-- The runs of code points whose names end in their own number, ends included, and how the names
start. -/
def numberedRuns : List (String × Nat × Nat) :=
  [("CJK COMPATIBILITY IDEOGRAPH-", 0xF900, 0xFA6D),
    ("CJK COMPATIBILITY IDEOGRAPH-", 0xFA70, 0xFAD9),
    ("KHITAN SMALL SCRIPT CHARACTER-", 0x18B00, 0x18CD5), ("NUSHU CHARACTER-", 0x1B170, 0x1B2FB),
    ("CJK COMPATIBILITY IDEOGRAPH-", 0x2F800, 0x2FA1D)]

/-- The code point whose name ends in its number, without a zero in front. -/
def numbered? (name : Text) : Option CodePoint :=
  numberedRuns.findSome? fun (start, first, last) => do
    let digits ← Text.after? start name
    let n ← hexSuffix? digits
    if first ≤ n ∧ n ≤ last ∧ digits.head? ≠ some '0' then return .ofNat n else none

/-! ## Names by table -/

/-- The tables of names. -/
def nameTables : List String :=
  [alphabetNames, symbolNames, syllableNames, historyNames, pictureNames, furtherNames]

/-- How the search for a name in a table stands. -/
structure NameSearch where
  /-- The number that the entry to come has unless it gives its own. -/
  next : Nat := 0
  /-- How many words of the name are those of the last entry's name. -/
  shared : Nat := 0
  /-- The number of the code point with the name. -/
  found : Option Nat := none

/-- How many words two lists have in common before they differ. -/
def commonWords : List Text → List Text → Nat
  | a :: as, b :: bs => if a = b then commonWords as bs + 1 else 0
  | _, _ => 0

/-- The search for a name after one more entry. An entry that takes over more words than fit the
name fits no better. -/
def NameSearch.step (name : List Text) (search : NameSearch) (entry : Text) : NameSearch :=
  let (number, entry) : Nat × Text :=
    match Text.cut? "=" entry with
    | some (digits, entry) => (Text.hexNumber digits, entry)
    | none => (search.next, entry)
  let search := { search with next := number + 1 }
  match entry with
  | [] => search
  | digit :: words =>
    let taken := digit.asciiDigit?.getD 0
    if search.shared < taken then search
    else
      let words := if words.isEmpty then [] else Text.splitOn ' ' words
      let shared := taken + commonWords words (name.drop taken)
      { search with
        shared
        found :=
          if shared = taken + words.length ∧ shared = name.length then some number
          else search.found }

/-- The code point of a name in a table. -/
def listed? (name : List Text) (table : String) : Option CodePoint :=
  let entries := (Text.splitOn '\n' table).flatMap (Text.splitOn ';')
  (entries.foldl (NameSearch.step name) {}).found.map CodePoint.ofNat

/-- A letter of ASCII in upper case. -/
def asciiUpper (c : CodePoint) : CodePoint :=
  if c.between 'a' 'z' then .ofNat (c.val - 32) else c

/-- The code point with a name. -/
def named? (name : Text) : Option CodePoint :=
  match Text.after? "HANGUL SYLLABLE " name, Text.after? "CJK UNIFIED IDEOGRAPH-" name with
  | some sounds, _ => syllable? sounds
  | none, some digits =>
    (hexSuffix? digits).bind fun n =>
      if unifiedIdeographs.any (fun (first, last) => first ≤ n && n ≤ last) then some (.ofNat n)
      else none
  | none, none =>
    let name : Text := name.map asciiUpper
    match numbered? name with
    | some c => some c
    | none => nameTables.findSome? (listed? (Text.splitOn ' ' name))

end CodePoint

end SongSheet
