import SongSheet.Proofs.Timeline.Items
import SongSheet.Proofs.Traversal

/-!
# Timelines — the grammar

The reader of timelines is a machine that takes one code point at a time. The grammar that it
accepts needs no machine: a timeline is a row of tokens, blanks, numbers, keys and holds, each of
which is proper by itself, and **every hold stands behind a key with nothing but blanks between**
(`IsTimeline`). The items are what the tokens stand for, so **a text is read exactly when it is
spelled by tokens, and as what they mean** (`items_eq_ok_iff`).

The two directions are proved apart. Tokens are read one by one, which is a run of the machine from
one place between items to the next. For the way back every state has its own statement of what is
still to come (`State.Continues`); one lemma says that a step keeps it, and the induction along the
text is then two lines.

A text that is no timeline breaks off at one of its own code points (`exists_index_of_items`).
-/

set_option autoImplicit false

namespace SongSheet.Timeline

/-! ## 1. Tokens -/

/-- A piece of the text of a timeline. -/
inductive Token where
  | blank (c : CodePoint)
  | number (digits : Text)
  | key (name : Text)
  | hold (digits : Text) (waits : Bool)
  deriving DecidableEq, Repr

namespace Token

/-- How a token is spelled. -/
def text : Token → Text
  | blank c => [c]
  | number digits => digits
  | key name => Text.enclose '{' '}' name
  | hold digits true => Text.enclose '<' '>' digits
  | hold digits false => Text.enclose '(' ')' digits

/-- ASCII digits only. -/
def AreDigits (t : Text) : Prop := ∀ d ∈ t, d.between '0' '9' = true

/-- A token that may stand in a timeline: a number has a digit, a key a name that the player knows,
and a hold takes time. -/
def IsProper : Token → Prop
  | blank c => c.isBlank = true
  | number digits => digits ≠ [] ∧ AreDigits digits
  | key name => ∃ pitch, keyName? name = some pitch
  | hold digits _ => AreDigits digits ∧ 0 < Text.readNat digits

/-- What a token stands for; blanks stand for nothing. -/
def item? : Token → Option Item
  | blank _ => none
  | number digits => some (.wait (Text.readNat digits))
  | key name => (keyName? name).map .key
  | hold digits waits => some (.hold (Text.readNat digits) waits)

/-- A run of digits. -/
def IsNumber : Token → Prop
  | number _ => True
  | _ => False

/-- Not two runs of digits, which would be one. -/
def Apart (a b : Token) : Prop := ¬(a.IsNumber ∧ b.IsNumber)

end Token

/-- The text of tokens. -/
def spelling (tokens : List Token) : Text := tokens.flatMap Token.text

/-- The items of tokens. -/
def meaning (tokens : List Token) : List Item := tokens.filterMap Token.item?

/-- Every hold stands right behind a key. -/
def HoldsFollowKeys (contents : List Item) : Prop :=
  ∀ before time waits after, contents = before ++ .hold time waits :: after →
    ∃ pitch, before.getLast? = some (.key pitch)

/-- Tokens that make a timeline. Blanks have no item, so between a key and its hold they may stand
and nothing else. -/
structure IsTimeline (tokens : List Token) : Prop where
  proper : ∀ x ∈ tokens, x.IsProper
  runs : tokens.IsChain Token.Apart
  holds : HoldsFollowKeys (meaning tokens)

/-- Holds stand behind keys in items that come behind others; `held` says that the last of those is
a key. -/
def HoldsFrom : Bool → List Item → Prop
  | _, [] => True
  | _, .key _ :: rest => HoldsFrom true rest
  | _, .wait _ :: rest => HoldsFrom false rest
  | held, .hold _ _ :: rest => held = true ∧ HoldsFrom false rest

/-- An item behind which a hold may stand. -/
def Item.isKey : Item → Bool
  | .key _ => true
  | _ => false

theorem holdsFrom_cons {held : Bool} {item : Item} {rest : List Item} :
    HoldsFrom held (item :: rest)
      ↔ (∀ time waits, item = .hold time waits → held = true) ∧ HoldsFrom item.isKey rest := by
  cases item with
  | key pitch => simp [HoldsFrom, Item.isKey]
  | hold time waits => simp [HoldsFrom, Item.isKey]
  | wait time => simp [HoldsFrom, Item.isKey]

/-- Whether a hold may stand behind items that come behind others. -/
def heldAfter (held : Bool) (before : List Item) : Bool :=
  (before.getLast?.map Item.isKey).getD held

theorem heldAfter_cons (held : Bool) (item : Item) (before : List Item) :
    heldAfter held (item :: before) = heldAfter item.isKey before := by
  rw [heldAfter, heldAfter, List.getLast?_cons]
  cases before.getLast? <;> rfl

theorem holdsFrom_iff {held : Bool} {contents : List Item} :
    HoldsFrom held contents ↔ ∀ before time waits after,
      contents = before ++ .hold time waits :: after → heldAfter held before = true := by
  induction contents generalizing held with
  | nil => simp [HoldsFrom]
  | cons item contents ih =>
    rw [holdsFrom_cons, ih]
    constructor
    · rintro ⟨hfirst, hrest⟩ before time waits after hsplit
      cases before with
      | nil => exact hfirst time waits (List.cons.inj hsplit).1
      | cons first before =>
        obtain ⟨rfl, hbehind⟩ := List.cons.inj hsplit
        rw [heldAfter_cons]
        exact hrest before time waits after hbehind
    · intro h
      refine ⟨fun time waits hitem => h [] time waits contents (by rw [hitem]; rfl), ?_⟩
      intro before time waits after hsplit
      rw [← heldAfter_cons held]
      exact h (item :: before) time waits after (by rw [hsplit]; rfl)

theorem holdsFrom_false {contents : List Item} :
    HoldsFrom false contents ↔ HoldsFollowKeys contents := by
  have hlast : ∀ before, heldAfter false before = true
      ↔ ∃ pitch, before.getLast? = some (.key pitch) := by
    intro before
    rw [heldAfter]
    cases before.getLast? with
    | none => simp
    | some item => cases item <;> simp [Item.isKey]
  rw [holdsFrom_iff]
  simp only [hlast]
  rfl

/-! ## 2. Tokens are read -/

theorem asciiDigit?_of_isBlank {c : CodePoint} (h : c.isBlank = true) : c.asciiDigit? = none := by
  rw [CodePoint.asciiDigit?, if_neg]
  intro hdigit
  rw [Text.isBlank_of_isDigit (CodePoint.isDigit_of_between hdigit)] at h
  cases h

/-- A name that the player knows is made of letters and digits. -/
theorem isNamePart_of_keyName? {name : Text} {pitch : Int} (h : keyName? name = some pitch) :
    ∀ c ∈ name, (c.between 'A' 'G' || c.between '0' '9') = true := by
  have hwhole : ∀ {letter digit : CodePoint} {pitch : Int}, wholeKey? letter digit = some pitch →
      letter.between 'A' 'G' = true ∧ digit.between '0' '9' = true := by
    intro letter digit pitch hkey
    rw [wholeKey?] at hkey
    split at hkey
    case isFalse => cases hkey
    case isTrue hletter =>
      obtain ⟨number, hnumber, -⟩ := Option.map_eq_some_iff.mp hkey
      rw [CodePoint.asciiDigit?] at hnumber
      split at hnumber
      case isFalse => cases hnumber
      case isTrue hdigit => exact ⟨hletter, hdigit⟩
  unfold keyName? at h
  split at h
  case h_1 letter digit =>
    obtain ⟨hletter, hdigit⟩ := hwhole h
    simp [hletter, hdigit]
  case h_2 letter digit letter' digit' =>
    obtain ⟨lower, hlower, h⟩ := Option.bind_eq_some_iff.mp h
    obtain ⟨upper, hupper, -⟩ := Option.bind_eq_some_iff.mp h
    obtain ⟨hletter, hdigit⟩ := hwhole hlower
    obtain ⟨hletter', hdigit'⟩ := hwhole hupper
    simp [hletter, hdigit, hletter', hdigit']
  case h_3 => cases h

/-- A name is read up to its bracket. -/
theorem run_name {soFar name : Text}
    (h : ∀ c ∈ name, (c.between 'A' 'G' || c.between '0' '9') = true) :
    State.run (.name soFar) name = some ([], .name (soFar ++ name)) := by
  induction name generalizing soFar with
  | nil =>
    rw [List.append_nil]
    rfl
  | cons c name ih =>
    have hc := h c (by simp)
    have hclose : c ≠ '}' := by
      rintro rfl
      exact absurd hc (by decide)
    have hstep : State.step (.name soFar) c = some (none, .name (soFar ++ [c])) := by
      simp only [State.step, if_neg hclose, if_pos hc]
    rw [List.append_cons]
    exact State.run_cons hstep (ih fun d hd => h d (by simp [hd]))

/-- The name between the brackets of a key, and the bracket that closes it. -/
theorem run_keyRest {name : Text} {pitch : Int} (h : keyName? name = some pitch) :
    State.run (.name []) (name ++ [.ofChar '}']) = some ([.key pitch], .between true) := by
  have hname : State.run (.name []) name = some ([], .name name) :=
    run_name (isNamePart_of_keyName? h)
  have hstep : State.step (.name name) (.ofChar '}') = some (some (.key pitch), .between true) := by
    simp only [State.step, if_pos, h, Option.map_some]
  exact State.run_append hname (State.run_cons hstep rfl)

theorem run_key (held : Bool) {name : Text} {pitch : Int} (h : keyName? name = some pitch) :
    State.run (.between held) (Token.key name).text = some ([.key pitch], .between true) := by
  have hopen : State.step (.between held) (.ofChar '{') = some (none, .name []) := rfl
  exact State.run_cons hopen (run_keyRest h)

/-- The digits between the brackets of a hold, and the bracket that closes it. -/
theorem run_holdRest {digits : Text} (waits : Bool) (h : Token.AreDigits digits)
    (hlasts : 0 < Text.readNat digits) :
    State.run (.hold waits 0) (digits ++ [.ofChar (if waits then '>' else ')')])
      = some ([.hold (Text.readNat digits) waits], .between false) := by
  refine State.run_append (State.run_digits (State.step_hold waits) h 0) ?_
  have hstep : State.step (.hold waits (Text.readNat digits)) (.ofChar (if waits then '>' else ')'))
      = some (some (.hold (Text.readNat digits) waits), .between false) := by
    simp only [State.step, if_true, if_neg hlasts.ne']
  exact State.run_cons hstep rfl

theorem run_holdToken {digits : Text} (waits : Bool) (h : Token.AreDigits digits)
    (hlasts : 0 < Text.readNat digits) :
    State.run (.between true) (Token.hold digits waits).text
      = some ([.hold (Text.readNat digits) waits], .between false) := by
  have hrest := run_holdRest waits h hlasts
  cases waits with
  | true =>
    have hopen : State.step (.between true) (.ofChar '<') = some (none, .hold true 0) := rfl
    exact State.run_cons hopen hrest
  | false =>
    have hopen : State.step (.between true) (.ofChar '(') = some (none, .hold false 0) := rfl
    exact State.run_cons hopen hrest

theorem run_blank (held : Bool) {c : CodePoint} (h : c.isBlank = true) :
    State.run (.between held) [c] = some ([], .between held) := by
  have hstep : State.step (.between held) c = some (none, .between held) := by
    simp [State.step, State.begin, h]
  exact State.run_cons hstep rfl

theorem run_number (held : Bool) {digits : Text} (hne : digits ≠ []) (h : Token.AreDigits digits) :
    State.run (.between held) digits = some ([], .wait (Text.readNat digits)) := by
  have hrun := State.run_digits State.step_wait h 0
  obtain ⟨d, ds, rfl⟩ := List.exists_cons_of_ne_nil hne
  rw [State.run] at hrun ⊢
  rw [State.step_between_digit held (h d (by simp))]
  exact hrun

/-- A number ends where no digit follows. -/
theorem itemsFrom_wait {time : Nat} {t : Text} (h : ∀ c ∈ t.head?, c.asciiDigit? = none) :
    itemsFrom (.wait time) t = (itemsFrom (.between false) t).map (.wait time :: ·) := by
  cases t with
  | nil => rfl
  | cons c t =>
    have hc := h c rfl
    rw [itemsFrom, itemsFrom]
    simp only [State.step, hc]
    cases State.begin false c with
    | none => rfl
    | some next =>
      simp only [Option.map_some]
      cases itemsFrom next t <;> rfl

/-- A token that is no number does not start with a digit. -/
theorem head_text {x : Token} (hproper : x.IsProper) (hnumber : ¬x.IsNumber) (rest : Text) :
    ∀ c ∈ (x.text ++ rest).head?, c.asciiDigit? = none := by
  intro c hc
  cases x with
  | blank b =>
    cases hc
    exact asciiDigit?_of_isBlank hproper
  | number digits => exact absurd trivial hnumber
  | key name =>
    cases hc
    rfl
  | hold digits waits =>
    cases waits with
    | true =>
      cases hc
      rfl
    | false =>
      cases hc
      rfl

/-- **Proper tokens are read as what they mean**, from any place between items. -/
theorem itemsFrom_spelling {tokens : List Token} {held : Bool}
    (hproper : ∀ x ∈ tokens, x.IsProper) (hruns : tokens.IsChain Token.Apart)
    (hholds : HoldsFrom held (meaning tokens)) :
    itemsFrom (.between held) (spelling tokens) = .ok (meaning tokens) := by
  induction tokens generalizing held with
  | nil => rfl
  | cons x tokens ih =>
    obtain ⟨hx, hothers⟩ := List.forall_mem_cons.mp hproper
    have hread : ∀ {held : Bool}, HoldsFrom held (meaning tokens) →
        itemsFrom (.between held) (spelling tokens) = .ok (meaning tokens) :=
      fun hrest => ih hothers hruns.of_cons hrest
    have hspelling : spelling (x :: tokens) = x.text ++ spelling tokens := List.flatMap_cons
    rw [hspelling]
    cases x with
    | blank c =>
      have hmeaning : meaning (.blank c :: tokens) = meaning tokens := rfl
      rw [hmeaning] at hholds ⊢
      show itemsFrom (.between held) ([c] ++ spelling tokens) = _
      rw [State.itemsFrom_append (run_blank held hx), hread hholds]
      rfl
    | number digits =>
      have hmeaning : meaning (.number digits :: tokens)
          = .wait (Text.readNat digits) :: meaning tokens := rfl
      have hends : ∀ c ∈ (spelling tokens).head?, c.asciiDigit? = none := by
        cases tokens with
        | nil => exact nofun
        | cons y tokens =>
          have hy : ¬y.IsNumber := fun hy => (List.isChain_cons_cons.mp hruns).1 ⟨trivial, hy⟩
          exact head_text (hothers y (by simp)) hy (spelling tokens)
      rw [hmeaning, holdsFrom_cons] at hholds
      have hrest : itemsFrom (.between false) (spelling tokens) = .ok (meaning tokens) :=
        hread hholds.2
      show itemsFrom (.between held) (digits ++ spelling tokens) = _
      rw [hmeaning, State.itemsFrom_append (run_number held hx.1 hx.2), itemsFrom_wait hends, hrest]
      rfl
    | key name =>
      obtain ⟨pitch, hpitch⟩ := hx
      have hmeaning : meaning (.key name :: tokens) = .key pitch :: meaning tokens := by
        simp [meaning, Token.item?, hpitch]
      rw [hmeaning, holdsFrom_cons] at hholds
      have hrest : itemsFrom (.between true) (spelling tokens) = .ok (meaning tokens) :=
        hread hholds.2
      rw [hmeaning, State.itemsFrom_append (run_key held hpitch), hrest]
      rfl
    | hold digits waits =>
      have hmeaning : meaning (.hold digits waits :: tokens)
          = .hold (Text.readNat digits) waits :: meaning tokens := rfl
      rw [hmeaning, holdsFrom_cons] at hholds
      have hrest : itemsFrom (.between false) (spelling tokens) = .ok (meaning tokens) :=
        hread hholds.2
      rw [hmeaning, hholds.1 _ _ rfl, State.itemsFrom_append (run_holdToken waits hx.1 hx.2), hrest]
      rfl

/-! ## 3. What is read was spelled -/

/-- Tokens that spell a text and mean items, behind items of which `held` says that the last one is
a key. -/
structure Spells (held : Bool) (tokens : List Token) (t : Text) (contents : List Item) : Prop where
  proper : ∀ x ∈ tokens, x.IsProper
  runs : tokens.IsChain Token.Apart
  holds : HoldsFrom held contents
  spelling_eq : spelling tokens = t
  meaning_eq : meaning tokens = contents

/-- Some tokens spell a text and mean items. -/
def IsSpelled (held : Bool) (t : Text) (contents : List Item) : Prop :=
  ∃ tokens, Spells held tokens t contents

theorem isSpelled_nil (held : Bool) : IsSpelled held [] [] :=
  ⟨[], nofun, .nil, trivial, rfl, rfl⟩

/-- One more token in front, if it is no number. -/
theorem IsSpelled.cons {held : Bool} {x : Token} {t : Text} {contents : List Item}
    (hproper : x.IsProper) (hnumber : ¬x.IsNumber)
    (hholds : HoldsFrom held (x.item?.toList ++ contents)) {held' : Bool}
    (h : IsSpelled held' t contents) :
    IsSpelled held (x.text ++ t) (x.item?.toList ++ contents) := by
  obtain ⟨tokens, h⟩ := h
  refine ⟨x :: tokens, List.forall_mem_cons.mpr ⟨hproper, h.proper⟩, ?_, hholds, ?_, ?_⟩
  · cases tokens with
    | nil => exact .singleton x
    | cons y tokens => exact .cons_cons (fun hboth => hnumber hboth.1) h.runs
  · rw [← h.spelling_eq]
    exact List.flatMap_cons
  · rw [← h.meaning_eq, meaning, List.filterMap_cons]
    cases x.item? <;> rfl

/-- A number in front, if no digit follows it. -/
theorem IsSpelled.number {held : Bool} {digits t : Text} {contents : List Item} (hne : digits ≠ [])
    (hdigits : Token.AreDigits digits) (hends : ∀ c ∈ t.head?, c.asciiDigit? = none)
    (h : IsSpelled false t contents) :
    IsSpelled held (digits ++ t) (.wait (Text.readNat digits) :: contents) := by
  obtain ⟨tokens, h⟩ := h
  refine ⟨.number digits :: tokens, List.forall_mem_cons.mpr ⟨⟨hne, hdigits⟩, h.proper⟩, ?_,
    h.holds, ?_, ?_⟩
  · cases tokens with
    | nil => exact .singleton _
    | cons y tokens =>
      refine .cons_cons ?_ h.runs
      rintro ⟨-, hy⟩
      -- The text goes on with the digits of that number.
      cases y with
      | number digits' =>
        obtain ⟨hne', hdigits'⟩ := h.proper (.number digits') (by simp)
        obtain ⟨d, ds, rfl⟩ := List.exists_cons_of_ne_nil hne'
        have hhead : d ∈ t.head? := by
          rw [← h.spelling_eq]
          rfl
        have hnone := hends d hhead
        rw [CodePoint.asciiDigit?_of_between (hdigits' d (by simp))] at hnone
        cases hnone
      | blank c => exact hy
      | key name => exact hy
      | hold digits' waits => exact hy
  · rw [← h.spelling_eq]
    exact List.flatMap_cons
  · rw [← h.meaning_eq]
    rfl

/-- The number that goes on with more digits. -/
def goOn (n : Nat) (digits : Text) : Nat := digits.foldl (fun n d => n * 10 + d.digit?.getD 0) n

theorem goOn_cons {n : Nat} {d : CodePoint} (h : d.between '0' '9' = true) (digits : Text) :
    goOn n (d :: digits) = goOn (n * 10 + (d.val - 48)) digits := by
  rw [goOn, List.foldl_cons, CodePoint.digit?_of_between h]
  rfl

/-- What is still to come from a state on: the rest of what it is in, and tokens behind it. -/
def State.Continues : State → Text → List Item → Prop
  | .between held, t, contents => IsSpelled held t contents
  | .name soFar, t, contents => ∃ name pitch u rest, keyName? (soFar ++ name) = some pitch
      ∧ IsSpelled true u rest ∧ t = name ++ .ofChar '}' :: u ∧ contents = .key pitch :: rest
  | .hold waits time, t, contents => ∃ digits u rest, Token.AreDigits digits ∧ 0 < goOn time digits
      ∧ IsSpelled false u rest ∧ t = digits ++ .ofChar (if waits then '>' else ')') :: u
      ∧ contents = .hold (goOn time digits) waits :: rest
  | .wait time, t, contents => ∃ digits u rest, Token.AreDigits digits
      ∧ (∀ c ∈ u.head?, c.asciiDigit? = none) ∧ IsSpelled false u rest ∧ t = digits ++ u
      ∧ contents = .wait (goOn time digits) :: rest

namespace State

variable {c : CodePoint} {t : Text} {contents : List Item}

theorem areDigits_cons {d : CodePoint} {digits : Text} (hd : d.between '0' '9' = true)
    (h : Token.AreDigits digits) : Token.AreDigits (d :: digits) :=
  List.forall_mem_cons.mpr ⟨hd, h⟩

theorem between_of_asciiDigit? {d : Nat} (h : c.asciiDigit? = some d) :
    c.between '0' '9' = true ∧ d = c.val - 48 := by
  rw [CodePoint.asciiDigit?] at h
  split at h
  case isFalse => cases h
  case isTrue hc => exact ⟨hc, (Option.some.inj h).symm⟩

/-- A hold that was opened behind a key. -/
theorem isSpelled_hold {waits : Bool} (h : (hold waits 0).Continues t contents) :
    IsSpelled true (.ofChar (if waits then '<' else '(') :: t) contents := by
  obtain ⟨digits, u, rest, hdigits, hlasts, ⟨tokens, hspells⟩, rfl, rfl⟩ := h
  have hholds : HoldsFrom true (.hold (Text.readNat digits) waits :: rest) := ⟨rfl, hspells.holds⟩
  have hcons := IsSpelled.cons (x := .hold digits waits) ⟨hdigits, hlasts⟩ id hholds
    ⟨tokens, hspells⟩
  have htext : (Token.hold digits waits).text ++ u
      = .ofChar (if waits then '<' else '(')
        :: (digits ++ .ofChar (if waits then '>' else ')') :: u) := by
    cases waits <;> simp [Token.text, Text.enclose]
  rwa [htext] at hcons

/-- A name that was opened. -/
theorem isSpelled_name {held : Bool} (h : (name []).Continues t contents) :
    IsSpelled held (.ofChar '{' :: t) contents := by
  obtain ⟨name, pitch, u, rest, hpitch, ⟨tokens, hspells⟩, rfl, rfl⟩ := h
  have hitem : (Token.key name).item? = some (.key pitch) := by
    rw [Token.item?, ← List.nil_append name, hpitch]
    rfl
  have hholds : HoldsFrom held ((Token.key name).item?.toList ++ rest) := by
    rw [hitem]
    exact hspells.holds
  have hcons := IsSpelled.cons (x := .key name) ⟨pitch, hpitch⟩ id hholds ⟨tokens, hspells⟩
  rw [hitem] at hcons
  simpa [Token.text, Text.enclose] using hcons

/-- A code point between items starts a token or is one. -/
theorem isSpelled_begin {held : Bool} {next : State} (hbegin : begin held c = some next)
    (h : next.Continues t contents) : IsSpelled held (c :: t) contents := by
  rw [begin] at hbegin
  split_ifs at hbegin with hblank hname hwaits hheld hholds hheld'
  · cases hbegin
    obtain ⟨tokens, hspells⟩ := h
    exact IsSpelled.cons (x := .blank c) hblank id hspells.holds ⟨tokens, hspells⟩
  · cases hbegin
    rw [hname]
    exact isSpelled_name h
  · cases hbegin
    rw [hwaits, hheld]
    exact isSpelled_hold h
  · cases hbegin
    rw [hholds, hheld']
    exact isSpelled_hold h
  · obtain ⟨d, hd, rfl⟩ := Option.map_eq_some_iff.mp hbegin
    obtain ⟨hdigit, rfl⟩ := between_of_asciiDigit? hd
    obtain ⟨digits, u, rest, hdigits, hends, hspelled, rfl, rfl⟩ := h
    have hnumber : Text.readNat (c :: digits) = goOn (c.val - 48) digits := by
      show goOn 0 (c :: digits) = _
      rw [goOn_cons hdigit, Nat.zero_mul, Nat.zero_add]
    rw [← hnumber, ← List.cons_append]
    exact hspelled.number (List.cons_ne_nil c digits) (areDigits_cons hdigit hdigits) hends

/-- **A step goes on with what is still to come**, with the item that it completes in front. -/
theorem continues_step {s next : State} {item : Option Item} (hstep : s.step c = some (item, next))
    (h : next.Continues t contents) : s.Continues (c :: t) (item.toList ++ contents) := by
  cases s with
  | between held =>
    obtain ⟨next, hbegin, hnext⟩ := Option.map_eq_some_iff.mp hstep
    cases hnext
    exact isSpelled_begin hbegin h
  | name soFar =>
    rw [step] at hstep
    split_ifs at hstep with hclose hpart
    · -- The bracket: of the name nothing is still to come.
      obtain ⟨pitch, hpitch, hnext⟩ := Option.map_eq_some_iff.mp hstep
      cases hnext
      exact ⟨[], pitch, t, contents, by rwa [List.append_nil], h, by rw [hclose]; rfl, rfl⟩
    · cases hstep
      obtain ⟨name, pitch, u, rest, hpitch, hspelled, rfl, rfl⟩ := h
      exact ⟨c :: name, pitch, u, rest, by rwa [List.append_cons], hspelled, rfl, rfl⟩
  | hold waits time =>
    rw [step] at hstep
    by_cases hclose : c = .ofChar (if waits then '>' else ')')
    · rw [if_pos hclose] at hstep
      split_ifs at hstep with hzero
      cases hstep
      exact ⟨[], t, contents, List.forall_mem_nil _, Nat.pos_of_ne_zero hzero, h,
        by rw [hclose]; rfl, rfl⟩
    · rw [if_neg hclose] at hstep
      obtain ⟨d, hd, hnext⟩ := Option.map_eq_some_iff.mp hstep
      cases hnext
      obtain ⟨hdigit, rfl⟩ := between_of_asciiDigit? hd
      obtain ⟨digits, u, rest, hdigits, hlasts, hspelled, rfl, rfl⟩ := h
      rw [← goOn_cons hdigit] at hlasts ⊢
      exact ⟨c :: digits, u, rest, areDigits_cons hdigit hdigits, hlasts, hspelled, rfl, rfl⟩
  | wait time =>
    rw [step] at hstep
    split at hstep
    case h_1 d hd =>
      cases hstep
      obtain ⟨hdigit, rfl⟩ := between_of_asciiDigit? hd
      obtain ⟨digits, u, rest, hdigits, hends, hspelled, rfl, rfl⟩ := h
      rw [← goOn_cons hdigit]
      exact ⟨c :: digits, u, rest, areDigits_cons hdigit hdigits, hends, hspelled, rfl, rfl⟩
    case h_2 hnone =>
      -- The number has ended, and what comes now begins between items.
      obtain ⟨next, hbegin, hnext⟩ := Option.map_eq_some_iff.mp hstep
      cases hnext
      have hends : ∀ d ∈ (c :: t).head?, d.asciiDigit? = none := by
        intro d hd
        cases hd
        exact hnone
      exact ⟨[], c :: t, contents, List.forall_mem_nil _, hends, isSpelled_begin hbegin h, rfl,
        rfl⟩

theorem continues_finish {s : State} (h : s.finish = some contents) : s.Continues [] contents := by
  cases s with
  | between held =>
    cases h
    exact isSpelled_nil held
  | wait time =>
    cases h
    exact ⟨[], [], [], List.forall_mem_nil _, nofun, isSpelled_nil false, rfl, rfl⟩
  | name soFar => cases h
  | hold waits time => cases h

/-- **What is read from a state on is what was still to come.** -/
theorem continues_of_itemsFrom {s : State} (h : itemsFrom s t = .ok contents) :
    s.Continues t contents := by
  induction t generalizing s contents with
  | nil =>
    rw [itemsFrom] at h
    cases hfinish : s.finish with
    | none =>
      rw [hfinish] at h
      cases h
    | some last =>
      rw [hfinish] at h
      cases h
      exact continues_finish hfinish
  | cons c t ih =>
    rw [itemsFrom] at h
    cases hstep : s.step c with
    | none =>
      rw [hstep] at h
      cases h
    | some out =>
      rw [hstep] at h
      obtain ⟨rest, hrest, rfl⟩ := map_eq_ok h
      exact continues_step hstep (ih hrest)

end State

/-! ## 4. Read and refused -/

variable {content : Text} {contents : List Item}

/-- **A timeline is read exactly when it is spelled by tokens**, and as what they mean. -/
theorem items_eq_ok_iff :
    items content = .ok contents
      ↔ ∃ tokens, IsTimeline tokens ∧ spelling tokens = content ∧ meaning tokens = contents := by
  have hitems :
      items content = .ok contents ↔ itemsFrom (.between false) content = .ok contents := by
    rw [items]
    cases itemsFrom (.between false) content with
    | error left => simp
    | ok contents => simp
  rw [hitems]
  constructor
  · intro h
    obtain ⟨tokens, hspells⟩ := State.continues_of_itemsFrom h
    have hholds : HoldsFollowKeys (meaning tokens) := by
      rw [hspells.meaning_eq]
      exact holdsFrom_false.mp hspells.holds
    exact ⟨tokens, ⟨hspells.proper, hspells.runs, hholds⟩, hspells.spelling_eq, hspells.meaning_eq⟩
  · rintro ⟨tokens, htimeline, rfl, rfl⟩
    exact itemsFrom_spelling htimeline.proper htimeline.runs (holdsFrom_false.mpr htimeline.holds)

theorem holdsFollowKeys_of_items (h : items content = .ok contents) : HoldsFollowKeys contents := by
  obtain ⟨tokens, htimeline, -, rfl⟩ := items_eq_ok_iff.mp h
  exact htimeline.holds

theorem left_of_itemsFrom_nil {state : State} {left : Nat} (h : itemsFrom state [] = .error left) :
    left = 1 := by
  rw [itemsFrom] at h
  cases hfinish : state.finish with
  | none =>
    rw [hfinish] at h
    exact (Except.error.inj h).symm
  | some last =>
    rw [hfinish] at h
    cases h

/-- What is left where a text breaks off is a part of it, and not nothing. A text that ends too
early breaks off at its last code point. -/
theorem left_of_itemsFrom {state : State} {t : Text} {left : Nat}
    (h : itemsFrom state t = .error left) : 0 < left ∧ (t ≠ [] → left ≤ t.length) := by
  induction t generalizing state with
  | nil =>
    rw [left_of_itemsFrom_nil h]
    exact ⟨Nat.one_pos, fun hne => absurd rfl hne⟩
  | cons c t ih =>
    rw [itemsFrom] at h
    cases hstep : state.step c with
    | none =>
      rw [hstep] at h
      cases h
      exact ⟨Nat.succ_pos _, fun _ => Nat.le_refl _⟩
    | some out =>
      rw [hstep] at h
      obtain ⟨hpos, hle⟩ := ih (error_of_map h)
      refine ⟨hpos, fun _ => ?_⟩
      rw [List.length_cons]
      cases t with
      | nil => exact Nat.le_of_eq (left_of_itemsFrom_nil (error_of_map h))
      | cons d t => exact Nat.le_succ_of_le (hle (List.cons_ne_nil d t))

/-- **A text that is no timeline breaks off at one of its own code points.** -/
theorem exists_index_of_items {e : SheetError} (h : items content = .error e) :
    ∃ index < content.length, e = .timelineForm index := by
  rw [items] at h
  cases hfrom : itemsFrom (.between false) content with
  | ok contents =>
    rw [hfrom] at h
    cases h
  | error left =>
    rw [hfrom] at h
    cases h
    obtain ⟨hpos, hle⟩ := left_of_itemsFrom hfrom
    have hne : content ≠ [] := by
      rintro rfl
      cases hfrom
    have hlength := List.length_pos_of_ne_nil hne
    exact ⟨content.length - left, by omega, rfl⟩

end SongSheet.Timeline
