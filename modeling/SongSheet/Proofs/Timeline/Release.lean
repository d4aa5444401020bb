import SongSheet.Proofs.Timeline.Grammar

/-!
# Timelines — an early release, spelled twice

Keys that are let go before the next ones come can be written down in two ways. `(200) 300` holds
them for 200 ms and then lets 300 ms pass; `<200> 100` lets the 200 ms of the hold pass with it and
then the 100 ms that are left. **One may stand for the other in any timeline** (`read_released`):
whatever comes before the keys and after the wait, both texts are read as the same score or both are
refused.

The spellings differ in what they do to the clock and when, but behind the wait they have done the
same (`pressesFrom_released`). What is before the keys matters only for whether it can be read up to
them: if it can, the keys are read as keys, whatever was open (`run_keys`), and if not, the text
breaks off before the spellings are met.
-/

set_option autoImplicit false

namespace SongSheet.Timeline

/-- Keys held without waiting, and a wait behind them. -/
def holdThenWait (hold wait : Nat) : Text :=
  Text.enclose '(' ')' (Text.ofNat hold) ++ (" " : Text) ++ Text.ofNat wait ++ (" " : Text)

/-- Keys held and waited for, and a wait for what is left. -/
def holdAndWait (hold wait : Nat) : Text :=
  Text.enclose '<' '>' (Text.ofNat hold) ++ (" " : Text) ++ Text.ofNat (wait - hold) ++ (" " : Text)

/-- Key groups, one next to the other. -/
def keyGroups (names : List Text) : Text := names.flatMap (Text.enclose '{' '}')

/-! ## 1. On the clock -/

/-- **Behind the wait the two spellings have done the same**, whatever was pressed before. -/
theorem pressesFrom_released {hold wait : Nat} (h : hold ≤ wait) (before after : List Item)
    (clock : Nat) (current : Press) :
    pressesFrom clock current (before ++ .hold hold false :: .wait wait :: after)
      = pressesFrom clock current (before ++ .hold hold true :: .wait (wait - hold) :: after) := by
  induction before generalizing clock current with
  | nil =>
    have hwait : current.wait + hold + (wait - hold) = current.wait + 0 + wait := by omega
    have hclock : clock + hold + (wait - hold) = clock + 0 + wait := by omega
    simp only [List.nil_append, pressesFrom, if_true, Bool.false_eq_true, if_false, hwait, hclock]
  | cons item before ih =>
    cases item with
    | key pitch =>
      rw [List.cons_append, List.cons_append, pressesFrom, pressesFrom, ih]
    | hold time waits =>
      rw [List.cons_append, List.cons_append, pressesFrom, pressesFrom, ih]
    | wait time =>
      rw [List.cons_append, List.cons_append, pressesFrom, pressesFrom, ih]

/-! ## 2. In the text -/

namespace State

variable {state : State} {t : Text}

theorem run_cons_eq_none {c : CodePoint} (h : run state (c :: t) = none) :
    state.step c = none
      ∨ ∃ item next, state.step c = some (item, next) ∧ run next t = none := by
  cases hstep : state.step c with
  | none => exact .inl rfl
  | some out =>
    refine .inr ⟨out.1, out.2, rfl, ?_⟩
    cases hrun : run out.2 t with
    | none => rfl
    | some found =>
      rw [run_cons hstep hrun] at h
      cases h

/-- Where a text breaks off, it does so whatever follows. -/
theorem itemsFrom_append_of_run_eq_none (h : run state t = none) (rest : Text) :
    ∃ left, itemsFrom state (t ++ rest) = .error left := by
  induction t generalizing state with
  | nil => cases h
  | cons c t ih =>
    rw [List.cons_append, itemsFrom]
    obtain hstep | ⟨item, next, hstep, hrun⟩ := run_cons_eq_none h
    · rw [hstep]
      exact ⟨_, rfl⟩
    · obtain ⟨left, hleft⟩ := ih hrun
      rw [hstep]
      dsimp only
      rw [hleft]
      exact ⟨left, rfl⟩

/-- A group that follows a bare number ends it; between items it begins a name. -/
theorem step_open (state : State) :
    state.step (.ofChar '{') = none
      ∨ ∃ item, state.step (.ofChar '{') = some (item, .name []) := by
  cases state with
  | between held => exact .inr ⟨none, rfl⟩
  | name soFar => exact .inl rfl
  | hold waits time => exact .inl (by cases waits <;> rfl)
  | wait time => exact .inr ⟨some (.wait time), rfl⟩

end State

/-- A group is read as its key, unless something before it is still open. -/
theorem run_keyGroup (state : State) {name : Text} {pitch : Int} (h : keyName? name = some pitch) :
    state.run (Text.enclose '{' '}' name) = none
      ∨ ∃ contents, state.run (Text.enclose '{' '}' name) = some (contents, .between true) := by
  obtain hstep | ⟨item, hstep⟩ := State.step_open state
  · refine .inl ?_
    show state.run (.ofChar '{' :: (name ++ [.ofChar '}'])) = none
    rw [State.run, hstep]
    rfl
  · exact .inr ⟨_, State.run_cons hstep (run_keyRest h)⟩

/-- Between items, groups are read as their keys. -/
theorem exists_run_keyGroups {names : List Text}
    (h : ∀ name ∈ names, ∃ pitch, keyName? name = some pitch) :
    ∃ contents, State.run (.between true) (keyGroups names) = some (contents, .between true) := by
  induction names with
  | nil => exact ⟨[], rfl⟩
  | cons name names ih =>
    obtain ⟨pitch, hpitch⟩ := h name (by simp)
    obtain ⟨contents, hrest⟩ := ih fun other hother => h other (by simp [hother])
    exact ⟨_, State.run_append (run_key true hpitch) hrest⟩

/-- **A text with keys behind it breaks off, or it is read up to behind the keys.** -/
theorem breaksOff_or_held (before : Text) {names : List Text} (hne : names ≠ [])
    (h : ∀ name ∈ names, ∃ pitch, keyName? name = some pitch) :
    (∀ rest, ∃ left, itemsFrom (.between false) (before ++ keyGroups names ++ rest) = .error left)
      ∨ ∃ contents, State.run (.between false) (before ++ keyGroups names)
        = some (contents, .between true) := by
  obtain ⟨name, names, rfl⟩ := List.exists_cons_of_ne_nil hne
  obtain ⟨pitch, hpitch⟩ := h name (by simp)
  obtain ⟨keys, hkeys⟩ := exists_run_keyGroups fun other hother =>
    h other (List.mem_cons_of_mem name hother)
  cases hbefore : State.run (.between false) before with
  | none =>
    refine .inl fun rest => ?_
    rw [List.append_assoc]
    exact State.itemsFrom_append_of_run_eq_none hbefore _
  | some found =>
    obtain ⟨contents, state⟩ := found
    obtain hopen | ⟨key, hkey⟩ := run_keyGroup state hpitch
    · -- The first bracket cannot stand where the text before it has led.
      refine .inl fun rest => ?_
      obtain ⟨left, hleft⟩ := State.itemsFrom_append_of_run_eq_none hopen (keyGroups names ++ rest)
      refine ⟨left, ?_⟩
      rw [keyGroups, List.flatMap_cons, List.append_assoc, State.itemsFrom_append hbefore,
        List.append_assoc, ← keyGroups, hleft]
      rfl
    · exact .inr ⟨_, State.run_append hbefore (State.run_append hkey hkeys)⟩

theorem run_holdThenWait {hold : Nat} (h : 1 ≤ hold) (wait : Nat) :
    State.run (.between true) (holdThenWait hold wait)
      = some ([.hold hold false, .wait wait], .between false) := by
  have hdigits : Token.AreDigits (Text.ofNat hold) := fun d hd => Text.between_of_mem_ofNat hd
  have hhold := run_holdToken false hdigits (by rwa [Text.readNat_ofNat])
  rw [Text.readNat_ofNat] at hhold
  have hblank := run_blank false (c := .ofChar ' ') (by decide)
  rw [holdThenWait, List.append_assoc]
  exact State.run_append (State.run_append hhold hblank) (run_wait false wait)

theorem run_holdAndWait {hold : Nat} (h : 1 ≤ hold) (wait : Nat) :
    State.run (.between true) (holdAndWait hold wait)
      = some ([.hold hold true, .wait (wait - hold)], .between false) := by
  have hblank := run_blank false (c := .ofChar ' ') (by decide)
  rw [holdAndWait, List.append_assoc]
  exact State.run_append (State.run_append (run_hold (by omega)) hblank) (run_wait false _)

/-! ## 3. In any timeline -/

/-- What is played of items. -/
theorem read_of_itemsFrom {name t : Text} {version : Int} {contents : List Item}
    (hversion : version = Timeline.version) (h : itemsFrom (.between false) t = .ok contents) :
    read name t version = ofSpans name (timedBeats (presses contents)) := by
  rw [read, if_neg (not_not.mpr hversion), items, h]
  rfl

theorem read_of_breaksOff {name t : Text} {version : Int} {left : Nat}
    (hversion : version = Timeline.version) (h : itemsFrom (.between false) t = .error left) :
    read name t version = .error (.timelineForm (t.length - left)) := by
  rw [read, if_neg (not_not.mpr hversion), items, h]
  rfl

/-- **A hold and then a wait, or a hold that is waited for and then what is left of the wait: in any
timeline, both are read as the same score or both are refused**, for a reason of the same kind. -/
theorem read_released (name before after : Text) (version : Int) {names : List Text}
    (hne : names ≠ []) (hnames : ∀ name ∈ names, ∃ pitch, keyName? name = some pitch)
    {hold wait : Nat} (hhold : 1 ≤ hold) (hwait : hold ≤ wait) :
    (read name (before ++ keyGroups names ++ holdThenWait hold wait ++ after) version).mapError
        SheetError.kind
      = (read name (before ++ keyGroups names ++ holdAndWait hold wait ++ after) version).mapError
        SheetError.kind := by
  by_cases hversion : version = Timeline.version
  case neg => simp only [read, if_pos hversion]
  case pos =>
    rw [List.append_assoc _ (holdThenWait hold wait), List.append_assoc _ (holdAndWait hold wait)]
    obtain hbreaks | ⟨contents, hheld⟩ := breaksOff_or_held before hne hnames
    · obtain ⟨left, hleft⟩ := hbreaks (holdThenWait hold wait ++ after)
      obtain ⟨left', hleft'⟩ := hbreaks (holdAndWait hold wait ++ after)
      rw [read_of_breaksOff hversion hleft, read_of_breaksOff hversion hleft']
      rfl
    · have hthen := State.itemsFrom_append
        (State.run_append hheld (run_holdThenWait hhold wait)) after
      have hand := State.itemsFrom_append
        (State.run_append hheld (run_holdAndWait hhold wait)) after
      rw [List.append_assoc] at hthen hand
      -- What comes after is one text read from one state: it breaks off in both or in neither.
      cases hafter : itemsFrom (.between false) after with
      | error left =>
        rw [hafter] at hthen hand
        rw [read_of_breaksOff hversion hthen, read_of_breaksOff hversion hand]
        rfl
      | ok rest =>
        rw [hafter] at hthen hand
        rw [read_of_itemsFrom hversion hthen, read_of_itemsFrom hversion hand]
        have hpresses := pressesFrom_released hwait contents rest 0 { start := 0 }
        simp only [presses, List.append_assoc, List.cons_append, List.nil_append, hpresses]

/-- Behind a chord at another moment and a number that the keys end, keys that are let go while the
wait goes on. -/
theorem read_released_sample :
    let names : List Text := ["D3", "C3D3"]
    let score : Score := {
      name := .string "x"
      bpm := 6666
      beats := [⟨⟨9, 9, by decide⟩, [0]⟩, ⟨⟨40, 9, by decide⟩, []⟩, ⟨⟨200, 9, by decide⟩, [2, 1]⟩,
        ⟨⟨100, 9, by decide⟩, []⟩, ⟨⟨36, 9, by decide⟩, [5]⟩] }
    (names ≠ [] ∧ (∀ name ∈ names, ∃ pitch, keyName? name = some pitch) ∧ 1 ≤ 200 ∧ 200 ≤ 300)
      ∧ read "x" "{C3}<9>40{D3}{C3D3}(200) 300 {F3}" 2 = .ok score
      ∧ (read "x" "{C3}<9>40{D3}{C3D3}(200) 300 {F3}" 2).mapError SheetError.kind
        = (read "x" "{C3}<9>40{D3}{C3D3}<200> 100 {F3}" 2).mapError SheetError.kind := by
  intro names score
  have hne : names ≠ [] := by decide
  have hnames : ∀ name ∈ names, ∃ pitch, keyName? name = some pitch := by
    intro name hname
    refine Option.isSome_iff_exists.mp ?_
    revert name
    decide
  have hthen : ("{C3}<9>40{D3}{C3D3}(200) 300 {F3}" : Text)
      = "{C3}<9>40" ++ keyGroups names ++ holdThenWait 200 300 ++ "{F3}" := by decide
  have hand : ("{C3}<9>40{D3}{C3D3}<200> 100 {F3}" : Text)
      = "{C3}<9>40" ++ keyGroups names ++ holdAndWait 200 300 ++ "{F3}" := by decide
  refine ⟨⟨hne, hnames, by decide, by decide⟩, by rfl, ?_⟩
  rw [hthen, hand]
  exact read_released "x" "{C3}<9>40" "{F3}" 2 hne hnames (by decide) (by decide)

end SongSheet.Timeline
