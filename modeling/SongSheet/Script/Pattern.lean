import SongSheet.Script.Expression.Reader

/-!
# Patterns of scripts

What stands after `case`. A pattern is a literal, a name for what it meets, a wildcard, a named
value, a class with patterns for its parts, or patterns for a sequence or a mapping; it may be one
of several with bars between, and it may give a name to what it meets.

Nothing of a pattern is kept, as it cannot be part of a call. The functions take steps as those of
expressions do.
-/

set_option autoImplicit false

namespace SongSheet.Script

/-- The word that stands for anything in a pattern. -/
def wildcard : Text := "_"

/-- A number without its sign: whether it is imaginary, and what is left. -/
def unsignedNumber : Lexemes → Option (Bool × Lexemes)
  | ⟨.int _, _⟩ :: rest | ⟨.float, _⟩ :: rest => some (false, rest)
  | ⟨.imaginary, _⟩ :: rest => some (true, rest)
  | _ => none

/-- What is left after a number with or without a minus sign, or after the sum or the difference of
a real and an imaginary one. -/
def numberPattern (ts : Lexemes) : Option Lexemes := do
  let (imaginary, rest) ← unsignedNumber ((sign "-" ts).getD ts)
  match (sign "+" rest).or (sign "-" rest) with
  | none => return rest
  | some rest =>
    let (second, rest) ← unsignedNumber rest
    if !imaginary && second then return rest else none

/-- What is left after a name that a pattern gives. -/
def captured (ts : Lexemes) : Option Lexemes :=
  (identifier ts).bind fun (id, rest) =>
    if id = wildcard ∨ (sign "." rest).isSome ∨ (sign "(" rest).isSome ∨ (sign "=" rest).isSome then
      none
    else some rest

/-- What is left after a literal in a pattern. -/
def literalPattern (steps : Nat) : Lexemes → Option Lexemes
  | ⟨.string s, left⟩ :: rest => (atom steps (⟨.string s, left⟩ :: rest)).map (·.2)
  | ⟨.name w, _⟩ :: rest =>
    if w = "True" ∨ w = "False" ∨ w = "None" then some rest else none
  | ts => numberPattern ts

/-- Whether a name has points in it, and what is left after it. -/
def dotted : Nat → Lexemes → Option (Bool × Lexemes)
  | 0, _ => none
  | steps + 1, ts => do
    let (_, rest) ← identifier ts
    match sign "." rest with
    | some rest => (dotted steps rest).map fun (_, rest) => (true, rest)
    | none => return (false, rest)

/-- What is left after the key of an entry: a literal or a name with points. -/
def patternKey (steps : Nat) (ts : Lexemes) : Option Lexemes :=
  match literalPattern steps ts with
  | some rest => some rest
  | none => (dotted steps ts).bind fun (pointed, rest) => if pointed then some rest else none

mutual

/-- What is left after a pattern, and the name that it gives. -/
def pattern : Nat → Lexemes → Option Lexemes
  | 0, _ => none
  | steps + 1, ts => do
    let rest ← alternatives steps ts
    match word "as" rest with
    | some rest => captured rest
    | none => return rest

/-- What is left after patterns with bars between. -/
def alternatives : Nat → Lexemes → Option Lexemes
  | 0, _ => none
  | steps + 1, ts => do
    let rest ← closedPattern steps ts
    match sign "|" rest with
    | some rest => alternatives steps rest
    | none => return rest

/-- What is left after a pattern that binds more tightly than a bar. -/
def closedPattern : Nat → Lexemes → Option Lexemes
  | 0, _ => none
  | steps + 1, ts =>
    match literalPattern steps ts, identifier ts, sign "(" ts, sign "[" ts, sign "\x7b" ts with
    | some rest, _, _, _, _ => some rest
    | none, some (id, rest), _, _, _ =>
      if id = wildcard then some rest
      else do
        let (_, rest) ← dotted steps ts
        match sign "(" rest with
        | some rest => partPatterns steps .first rest
        | none => if (sign "=" rest).isSome then none else return rest
    | none, none, some rest, _, _ =>
      match sign ")" rest with
      | some rest => some rest
      | none => do
        let (starred, rest) ← sequenceItem steps rest
        match sign ")" rest, sign "," rest with
        | some rest, _ => if starred then none else return rest
        | none, some rest => moreItems steps ")" rest
        | none, none => none
    | none, none, none, some rest, _ => moreItems steps "]" rest
    | none, none, none, none, some rest => entryPatterns steps rest
    | none, none, none, none, none => none

/-- An item of a sequence: whether it is starred, and what is left. A starred item is a name or a
wildcard. -/
def sequenceItem : Nat → Lexemes → Option (Bool × Lexemes)
  | 0, _ => none
  | steps + 1, ts =>
    match sign "*" ts with
    | some rest => ((captured rest).or (word wildcard rest)).map (true, ·)
    | none => (pattern steps ts).map (false, ·)

/-- What is left after the items up to a closing bracket; a comma may end them. -/
def moreItems : Nat → String → Lexemes → Option Lexemes
  | 0, _, _ => none
  | steps + 1, close, ts =>
    match sign close ts with
    | some rest => some rest
    | none => do
      let (_, rest) ← sequenceItem steps ts
      match sign close rest with
      | some rest => return rest
      | none => moreItems steps close (← sign "," rest)

/-- What is left after the patterns for the parts of a class up to the closing bracket: those by
place, then those by name. Behind one by place the wildcard is no name of a part. -/
def partPatterns : Nat → ArgumentStage → Lexemes → Option Lexemes
  | 0, _, _ => none
  | steps + 1, stage, ts =>
    match sign ")" ts with
    | some rest => some rest
    | none => do
      let byName := (identifier ts).bind fun (id, rest) =>
        if stage = .placed ∧ id = wildcard then none else sign "=" rest
      if stage = .named ∧ byName.isNone then none
      else
        let rest ← pattern steps (byName.getD ts)
        match sign ")" rest with
        | some rest => return rest
        | none => partPatterns steps (if byName.isSome then .named else .placed) (← sign "," rest)

/-- What is left after the patterns for the entries of a mapping up to the closing brace. A name for
all other entries comes last. -/
def entryPatterns : Nat → Lexemes → Option Lexemes
  | 0, _ => none
  | steps + 1, ts =>
    match sign "\x7d" ts, sign "**" ts with
    | some rest, _ => some rest
    | none, some rest => do
      let rest ← captured rest
      sign "\x7d" ((sign "," rest).getD rest)
    | none, none => do
      let rest ← pattern steps (← sign ":" (← patternKey steps ts))
      match sign "\x7d" rest with
      | some rest => return rest
      | none => entryPatterns steps (← sign "," rest)

end

/-- What is left after the items of a sequence without brackets, from behind its first comma. -/
def openItems : Nat → Lexemes → Option Lexemes
  | 0, _ => none
  | steps + 1, ts =>
    if (sign ":" ts).isSome || (word "if" ts).isSome then some ts
    else do
      let (_, rest) ← sequenceItem steps ts
      match sign "," rest with
      | some rest => openItems steps rest
      | none => return rest

/-- What is left after the whole of a pattern: one, or a sequence without brackets. -/
def casePattern (steps : Nat) (ts : Lexemes) : Option Lexemes := do
  let (starred, rest) ← sequenceItem steps ts
  match sign "," rest with
  | some rest => openItems steps rest
  | none => if starred then none else return rest

/-- What is left after a pattern and the condition it may have. -/
def caseHead (steps : Nat) (ts : Lexemes) : Option Lexemes := do
  let rest ← casePattern steps ts
  match word "if" rest with
  | some rest => (namedExpression steps rest).map (·.2)
  | none => return rest

/-- What is left after the items of what is compared, from behind their first comma. -/
def subjectItems : Nat → Lexemes → Option Lexemes
  | 0, _ => none
  | steps + 1, ts =>
    if (sign ":" ts).isSome then some ts
    else do
      let (_, rest) ← item steps ts
      match sign "," rest with
      | some rest => subjectItems steps rest
      | none => return rest

/-- What is left after what is compared with patterns: one expression, or several, which may be
starred. -/
def subject (steps : Nat) (ts : Lexemes) : Option Lexemes := do
  let (e, rest) ← item steps ts
  match sign "," rest, e with
  | some rest, _ => subjectItems steps rest
  | none, .starred _ => none
  | none, _ => return rest

end SongSheet.Script
