import SongSheet.Proofs.Pitch
import SongSheet.Proofs.Text.Numeral
import SongSheet.Timeline

/-!
# Timelines — the items of a written one

A timeline is written stroke by stroke and read code point by code point. Between strokes the reader
stands between items, so a stroke can be read alone: `State.run` says which items a text completes
from a state and which state it leads to, and runs follow each other as the texts do
(`State.run_append`). **The items of a written timeline are those of its strokes** (`items_write`).

The one thing that a stroke needs to know of its neighbours is whether a hold may follow, and it
follows in the stroke itself, behind a key.
-/

set_option autoImplicit false

namespace SongSheet.Timeline

/-! ## 1. Reading piece by piece -/

namespace State

/-- The items that a text completes from a state, and the state that it leads to; nothing where it
breaks off. -/
def run : State → Text → Option (List Item × State)
  | state, [] => some ([], state)
  | state, c :: t => do
    let (item, next) ← state.step c
    let (items, last) ← run next t
    return (item.toList ++ items, last)

variable {state middle next : State} {t u : Text} {items more : List Item}

theorem run_cons {c : CodePoint} {item : Option Item} (hc : state.step c = some (item, middle))
    (ht : run middle t = some (items, next)) :
    run state (c :: t) = some (item.toList ++ items, next) := by
  rw [run, hc]
  show (run middle t).bind _ = _
  rw [ht]
  rfl

theorem run_cons_eq_some {c : CodePoint} (h : run state (c :: t) = some (items, next)) :
    ∃ item middle rest, state.step c = some (item, middle) ∧ run middle t = some (rest, next)
      ∧ items = item.toList ++ rest := by
  rw [run, Option.bind_eq_bind, Option.bind_eq_some_iff] at h
  obtain ⟨⟨item, middle⟩, hstep, h⟩ := h
  obtain ⟨⟨rest, last⟩, hrun, h⟩ := Option.bind_eq_some_iff.mp h
  cases h
  exact ⟨item, middle, rest, hstep, hrun, rfl⟩

theorem run_append (ht : run state t = some (items, middle))
    (hu : run middle u = some (more, next)) : run state (t ++ u) = some (items ++ more, next) := by
  induction t generalizing state items with
  | nil =>
    cases ht
    exact hu
  | cons c t ih =>
    obtain ⟨item, between, rest, hstep, hrest, rfl⟩ := run_cons_eq_some ht
    rw [List.append_assoc]
    exact run_cons hstep (ih hrest)

/-- A run is all that the reader does on a text, whatever comes after it. -/
theorem itemsFrom_append (h : run state t = some (items, next)) (rest : Text) :
    itemsFrom state (t ++ rest) = (itemsFrom next rest).map (items ++ ·) := by
  induction t generalizing state items with
  | nil =>
    cases h
    rw [List.nil_append]
    cases itemsFrom next rest <;> rfl
  | cons c t ih =>
    obtain ⟨item, between, more, hstep, hmore, rfl⟩ := run_cons_eq_some h
    rw [List.cons_append, itemsFrom, hstep]
    show (itemsFrom between (t ++ rest)).map (item.toList ++ ·) = _
    rw [ih hmore]
    cases itemsFrom next rest <;> simp [Except.map]

/-- Digits go on with a number, wherever numbers are read. -/
theorem run_digits {number : Nat → State}
    (hstep : ∀ (n : Nat) (d : CodePoint), d.between '0' '9' = true →
      (number n).step d = some (none, number (n * 10 + (d.val - 48))))
    {ds : Text} (hds : ∀ d ∈ ds, d.between '0' '9' = true) (n : Nat) :
    run (number n) ds
      = some ([], number (ds.foldl (fun n d => n * 10 + d.digit?.getD 0) n)) := by
  induction ds generalizing n with
  | nil => rfl
  | cons d ds ih =>
    have hd := hds d (by simp)
    rw [List.foldl_cons, CodePoint.digit?_of_between hd]
    exact run_cons (hstep n d hd) (ih (fun c hc => hds c (by simp [hc])) _)

theorem step_wait (n : Nat) (d : CodePoint) (h : d.between '0' '9' = true) :
    step (.wait n) d = some (none, .wait (n * 10 + (d.val - 48))) := by
  simp only [step, CodePoint.asciiDigit?_of_between h]

theorem step_hold (waits : Bool) (n : Nat) (d : CodePoint) (h : d.between '0' '9' = true) :
    step (.hold waits n) d = some (none, .hold waits (n * 10 + (d.val - 48))) := by
  have hclose : ∀ waits : Bool, d ≠ .ofChar (if waits then '>' else ')') := by
    rintro (_ | _) rfl
    · exact absurd h (by decide)
    · exact absurd h (by decide)
  simp only [step, if_neg (hclose waits), CodePoint.asciiDigit?_of_between h, Option.map_some]

theorem run_ofNat {number : Nat → State}
    (hstep : ∀ (n : Nat) (d : CodePoint), d.between '0' '9' = true →
      (number n).step d = some (none, number (n * 10 + (d.val - 48)))) (n : Nat) :
    run (number 0) (Text.ofNat n) = some ([], number n) := by
  have hrun := run_digits hstep (fun d hd => Text.between_of_mem_ofNat (n := n) hd) 0
  rwa [← Text.readNat, Text.readNat_ofNat] at hrun

/-- The first digit of a number that waits is read as any other. -/
theorem step_between_digit (held : Bool) {d : CodePoint} (h : d.between '0' '9' = true) :
    step (.between held) d = step (.wait 0) d := by
  have hdigit := CodePoint.isDigit_of_between h
  have hblank : d.isBlank = false := Text.isBlank_of_isDigit hdigit
  have hname : d ≠ .ofChar '{' := CodePoint.ne_of_isDigit hdigit (by decide)
  have hhold : d ≠ .ofChar '<' := CodePoint.ne_of_isDigit hdigit (by decide)
  have hclose : d ≠ .ofChar '(' := CodePoint.ne_of_isDigit hdigit (by decide)
  simp [step, begin, hblank, hname, hhold, hclose, CodePoint.asciiDigit?_of_between h]

end State

/-! ## 2. Strokes -/

/-- A bare number with a blank behind it is a wait. -/
theorem run_wait (held : Bool) (time : Nat) :
    State.run (.between held) (Text.ofNat time ++ [.ofChar ' '])
      = some ([.wait time], .between false) := by
  have hnumber : State.run (.between held) (Text.ofNat time) = some ([], .wait time) := by
    have hrun := State.run_ofNat State.step_wait time
    obtain ⟨d, ds, hcons, hd⟩ := Text.ofNat_eq_cons time
    rw [hcons, State.run] at hrun ⊢
    rw [State.step_between_digit held hd]
    exact hrun
  exact State.run_append hnumber rfl

/-- A number in brackets behind a key is a hold. -/
theorem run_hold {time : Nat} (h : time ≠ 0) :
    State.run (.between true) (Text.enclose '<' '>' (Text.ofNat time))
      = some ([.hold time true], .between false) := by
  have hclose : State.run (.hold true time) [.ofChar '>']
      = some ([.hold time true], .between false) := by
    have hstep : State.step (.hold true time) (.ofChar '>')
        = some (some (.hold time true), .between false) := by
      simp only [State.step, if_true, if_neg h]
    exact State.run_cons hstep rfl
  have hopen : State.step (.between true) (.ofChar '<') = some (none, .hold true 0) := rfl
  exact State.run_cons hopen (State.run_append (State.run_ofNat (State.step_hold true) time) hclose)

/-- The labels of the player's keys. -/
def labels : List Text := playerLayout.keys.map Json.display

/-- **The reader knows the player's keys by their names.** -/
theorem run_label (held : Bool) : ∀ key < playerLayout.keyCount,
    State.run (.between held) (labels.getD key [])
      = some ([.key (playerLayout.keyPitch (key : Nat))], .between true) := by
  cases held <;> decide

/-- Keys that are named one after the other are pressed one after the other. -/
theorem run_labels {keys : List Nat} (h : ∀ key ∈ keys, key < playerLayout.keyCount)
    (hne : keys ≠ []) (held : Bool) :
    State.run (.between held) (keys.flatMap fun key => labels.getD key [])
      = some (keys.map fun key : Nat => .key (playerLayout.keyPitch key), .between true) := by
  induction keys generalizing held with
  | nil => exact absurd rfl hne
  | cons key keys ih =>
    have hkey := run_label held key (h key (by simp))
    cases keys with
    | nil => simpa using hkey
    | cons next keys =>
      exact State.run_append hkey (ih (fun k hk => h k (by simp [hk])) (by simp) true)

/-- Keys and the time until the next ones, as the player has them. -/
def spanOf (s : Stroke) : Span :=
  ⟨s.delay.toNat, s.keys.map fun key : Nat => playerLayout.keyPitch key⟩

/-- The items of keys and a time: the keys are held for it, and without keys it is a wait. -/
def Span.items (s : Span) : List Item :=
  if s.keys.isEmpty then [.wait s.time]
  else s.keys.map .key ++ if s.time = 0 then [] else [.hold s.time true]

/-- **A stroke is read as its keys and its time.** -/
theorem run_strokeText {s : Stroke} (hkeys : ∀ key ∈ s.keys, key < playerLayout.keyCount)
    (hdelay : 0 ≤ s.delay) (held : Bool) :
    ∃ held', State.run (.between held) (strokeText labels s)
      = some ((spanOf s).items, .between held') := by
  have htext : Text.ofInt s.delay = Text.ofNat s.delay.toNat := by
    rw [Text.ofInt_of_nonneg hdelay]
    congr 1
    omega
  by_cases hrest : s.keys = []
  · refine ⟨false, ?_⟩
    rw [strokeText, if_pos (by simpa using hrest), Span.items,
      if_pos (by simpa [spanOf] using hrest),
      hrest, htext]
    exact run_wait held s.delay.toNat
  · have hpressed := run_labels hkeys hrest held
    have hkeyItems : (spanOf s).keys.map Item.key
        = s.keys.map fun key : Nat => .key (playerLayout.keyPitch key) := List.map_map
    have hsounding : ¬s.keys.isEmpty = true := by simpa using hrest
    have hspan : ¬(spanOf s).keys.isEmpty = true := by simpa [spanOf] using hrest
    rw [strokeText, if_neg hsounding, Span.items, if_neg hspan, hkeyItems]
    by_cases hzero : s.delay = 0
    · have htime : (spanOf s).time = 0 := by simp [spanOf, hzero]
      rw [if_pos hzero, if_pos htime, List.append_nil]
      exact ⟨true, hpressed⟩
    · have htime : (spanOf s).time ≠ 0 := by
        show s.delay.toNat ≠ 0
        omega
      rw [if_neg hzero, if_neg htime, htext]
      exact ⟨false, State.run_append hpressed (run_hold htime)⟩

theorem run_write {strokes : List Stroke}
    (h : ∀ s ∈ strokes, (∀ key ∈ s.keys, key < playerLayout.keyCount) ∧ 0 ≤ s.delay)
    (held : Bool) :
    ∃ held', State.run (.between held) (write labels strokes)
      = some ((strokes.map spanOf).flatMap Span.items, .between held') := by
  induction strokes generalizing held with
  | nil => exact ⟨held, rfl⟩
  | cons s strokes ih =>
    obtain ⟨hkeys, hdelay⟩ := h s (by simp)
    obtain ⟨between, hs⟩ := run_strokeText hkeys hdelay held
    obtain ⟨last, hrest⟩ := ih (fun r hr => h r (by simp [hr])) between
    exact ⟨last, State.run_append hs hrest⟩

/-- **The items of a written timeline are those of its strokes.** -/
theorem items_write {strokes : List Stroke}
    (h : ∀ s ∈ strokes, (∀ key ∈ s.keys, key < playerLayout.keyCount) ∧ 0 ≤ s.delay) :
    items (write labels strokes) = .ok ((strokes.map spanOf).flatMap Span.items) := by
  obtain ⟨held, hrun⟩ := run_write h false
  have hitems := State.itemsFrom_append hrun []
  rw [List.append_nil] at hitems
  rw [items, hitems]
  show Except.ok (((strokes.map spanOf).flatMap Span.items) ++ []) = _
  rw [List.append_nil]

/-- A written timeline holds what stands in its labels, and digits and marks. -/
theorem mem_write {labels : List Text} {strokes : List Stroke} {c : CodePoint}
    (h : c ∈ write labels strokes) : (∃ label ∈ labels, c ∈ label) ∨ c.val < 0x80 := by
  obtain ⟨s, -, hc⟩ := List.mem_flatMap.mp h
  have hkeys : ∀ d ∈ s.keys.flatMap (fun key => labels.getD key []),
      (∃ label ∈ labels, d ∈ label) ∨ d.val < 0x80 := by
    intro d hd
    obtain ⟨key, -, hd⟩ := List.mem_flatMap.mp hd
    rw [List.getD_eq_getElem?_getD] at hd
    cases hlabel : labels[key]? with
    | none =>
      rw [hlabel] at hd
      cases hd
    | some label =>
      rw [hlabel] at hd
      exact .inl ⟨label, List.mem_of_getElem? hlabel, hd⟩
  rw [strokeText] at hc
  split_ifs at hc with hrest hzero
  · rw [List.append_assoc, List.mem_append, List.mem_append] at hc
    rcases hc with hc | hc | hc
    · exact hkeys c hc
    · exact .inr (Text.ascii_of_mem_ofInt hc).2
    · cases List.mem_singleton.mp hc
      exact .inr (by decide)
  · exact hkeys c hc
  · rw [Text.enclose, List.mem_append, List.mem_append, List.mem_cons, List.mem_singleton] at hc
    rcases hc with hc | (rfl | hc) | rfl
    · exact hkeys c hc
    · exact .inr (by decide)
    · exact .inr (Text.ascii_of_mem_ofInt hc).2
    · exact .inr (by decide)

/-- What is written for the player is ASCII. -/
theorem val_lt_of_mem_write {strokes : List Stroke} {c : CodePoint}
    (h : c ∈ write labels strokes) : c.val < 0x80 := by
  have hlabels : ∀ label ∈ labels, ∀ d ∈ label, d.val < 0x80 := by decide
  obtain ⟨label, hlabel, hc⟩ | hascii := mem_write h
  · exact hlabels label hlabel c hc
  · exact hascii

end SongSheet.Timeline
