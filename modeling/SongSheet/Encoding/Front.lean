import SongSheet.Encoding.Utf8

/-!
# Decoding from the front

Most encodings that need several octets for a character are read piece by piece: what is in front of
the octets says how many of them stand for something, and for what. What a piece means may depend on
those before it, which a state keeps.
-/

set_option autoImplicit false

namespace SongSheet

/-- What is in front of octets. -/
inductive Front (σ : Type) where
  /-- So many octets stand for a text, and the state after them. -/
  | text (t : Text) (count : Nat) (state : σ)
  /-- A character begins that the octets do not end. -/
  | incomplete
  /-- So many octets stand for nothing. -/
  | illegal (count : Nat)

namespace Front

/-- The text of octets from a position on, where `front` says what a first octet and those after it
begin with. -/
def decodeFrom {σ : Type} (codec : Text) (front : σ → UInt8 → List UInt8 → Front σ) :
    Nat → σ → Nat → List UInt8 → Except DecodeError Text
  | _, _, _, [] => .ok []
  | 0, _, position, b :: _ => .error ⟨codec, b, position, 1, illegalReason⟩
  | steps + 1, state, position, b :: rest =>
    match front state b rest with
    | text t count state =>
      (decodeFrom codec front steps state (position + count) ((b :: rest).drop count)).map (t ++ ·)
    | incomplete =>
      .error ⟨codec, b, position, rest.length + 1, "incomplete multibyte sequence"⟩
    | illegal count => .error ⟨codec, b, position, count, illegalReason⟩
where
  /-- Why octets that stand for nothing are refused. -/
  illegalReason : Text := "illegal multibyte sequence"

/-- The text of octets. Every step takes an octet, so there are as many steps as octets. -/
def decode {σ : Type} (codec : Text) (front : σ → UInt8 → List UInt8 → Front σ) (start : σ)
    (octets : List UInt8) : Except DecodeError Text :=
  decodeFrom codec front octets.length start 0 octets

/-- An octet that is a character. -/
def one {σ : Type} (state : σ) (c : CodePoint) : Front σ := .text [c] 1 state

/-- An octet of ASCII, or what else an octet is. -/
def asciiOr {σ : Type} (state : σ) (b : UInt8) (other : Front σ) : Front σ :=
  if b.toNat < 0x80 then one state (.ofNat b.toNat) else other

/-- Two octets that are a character, if the octets do not end before the second one. -/
def two {σ : Type} (state : σ) (rest : List UInt8) (find : UInt8 → Option Text) : Front σ :=
  match rest with
  | [] => .incomplete
  | c :: _ =>
    match find c with
    | some t => .text t 2 state
    | none => .illegal 1

/-- Text of ASCII and characters of two octets. -/
def decodePairs (codec : Text) (find : UInt8 → UInt8 → Option Text) (octets : List UInt8) :
    Except DecodeError Text :=
  decode codec (fun _ b rest => asciiOr () b (two () rest (find b))) () octets

end Front

/-- Whether an octet is between two numbers, ends included. -/
def octetIn (low high : Nat) (b : UInt8) : Bool := low ≤ b.toNat && b.toNat ≤ high

end SongSheet
