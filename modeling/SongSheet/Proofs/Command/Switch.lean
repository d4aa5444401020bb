import Mathlib.Data.List.Basic
import SongSheet.Command.Switch
import SongSheet.Proofs.Text.Cut

/-!
# Switches and operands — what a scan takes

A scan that goes well has met switches, one group of operands, and switches again. `Switches` says
that a piece of the arguments is switches alone, each with what it takes, and `takeOperands` takes
the group. **A scan takes everything exactly if the arguments fall apart like this**
(`of_scan`, `scan_grouped`), so what more arguments change is seen at the piece that they come to
(`Grouped.append_switches`, `Grouped.append_operands`, `Grouped.append_command`), and the number of
steps never matters.
-/

set_option autoImplicit false

namespace SongSheet.Command.Form

variable {f : Form} {t : Text} {xs ys : List Text} {a : Argument}
  {kinds more front middle back rest : List Argument} {taken first last : List Taken}
  {values : List Text} {met : Met} {steps : Nat} {wanted : Operands}

/-! ## 1. Kinds -/

/-- An argument is a switch only if it starts with a dash and is not two dashes alone, and then it
is one of the form's, if it is known. -/
def IsOf (f : Form) : Argument → Prop
  | .switch met t => (Text.after? "-" t).isSome ∧ t ≠ "--" ∧ ∀ m ∈ met, m.switch ∈ f.switches
  | _ => True

theorem mem_switches_of_named {entry : Text × Switch} (h : entry ∈ f.named) :
    entry.2 ∈ f.switches := by
  obtain ⟨s, hs, hentry⟩ := List.mem_flatMap.mp h
  obtain ⟨name, -, rfl⟩ := List.mem_map.mp hentry
  exact hs

theorem mem_switches_of_switch? {s : Switch} (h : f.switch? t = some s) : s ∈ f.switches := by
  obtain ⟨entry, hentry, rfl⟩ := Option.map_eq_some_iff.mp h
  exact mem_switches_of_named (List.mem_of_find?_eq_some hentry)

theorem mem_switches_of_candidates (h : met ∈ f.candidates t) : met.switch ∈ f.switches := by
  rw [candidates] at h
  split at h
  · obtain ⟨entry, hentry, hmet⟩ := List.mem_filterMap.mp h
    dsimp only at hmet
    split_ifs at hmet
    cases hmet
    exact mem_switches_of_named hentry
  · obtain ⟨entry, hentry, hmet⟩ := List.mem_filterMap.mp h
    dsimp only at hmet
    split at hmet
    · cases hmet
      exact mem_switches_of_named hentry
    · split at hmet
      · cases hmet
        exact mem_switches_of_named hentry
      · cases hmet

/-- The kind of an argument keeps its text. Two dashes alone are told apart before. -/
theorem of_classifyOne (h : f.classifyOne t = some a) (hdashes : t ≠ ("--" : Text)) :
    a.text = t ∧ isSeparator a = false ∧ f.IsOf a := by
  rw [classifyOne] at h
  split at h
  case isTrue =>
    cases h
    exact ⟨rfl, rfl, trivial⟩
  case isFalse hdash =>
    have hstart : (Text.after? "-" t).isSome := by
      rw [not_or, Option.isNone_iff_eq_none] at hdash
      exact Option.ne_none_iff_isSome.mp hdash.1
    split at h
    case h_1 s hs =>
      cases h
      refine ⟨rfl, rfl, hstart, hdashes, ?_⟩
      rintro m ⟨⟩
      exact mem_switches_of_switch? hs
    case h_2 =>
      split at h
      case h_1 hs _ =>
        cases h
        refine ⟨rfl, rfl, hstart, hdashes, ?_⟩
        rintro m ⟨⟩
        exact mem_switches_of_switch? hs
      case h_2 =>
        split at h
        case h_1 met hmet =>
          cases h
          refine ⟨rfl, rfl, hstart, hdashes, ?_⟩
          rintro m ⟨⟩
          exact mem_switches_of_candidates (hmet ▸ List.mem_singleton_self _)
        case h_2 => cases h
        case h_3 =>
          split at h
          · cases h
            exact ⟨rfl, rfl, trivial⟩
          · cases h
            exact ⟨rfl, rfl, hstart, hdashes, nofun⟩

theorem classify_cons (hdashes : t ≠ "--") :
    f.classify (t :: xs) = (f.classifyOne t).bind fun a => (f.classify xs).map (a :: ·) := by
  rw [classify, if_neg hdashes]
  cases f.classifyOne t with
  | none => rfl
  | some a => cases f.classify xs <;> rfl

theorem of_classify_cons (h : f.classify (t :: xs) = some kinds) (hdashes : t ≠ "--") :
    ∃ a rest, f.classifyOne t = some a ∧ f.classify xs = some rest ∧ kinds = a :: rest := by
  rw [classify_cons hdashes] at h
  obtain ⟨a, ha, h⟩ := Option.bind_eq_some_iff.mp h
  obtain ⟨rest, hrest, rfl⟩ := Option.map_eq_some_iff.mp h
  exact ⟨a, rest, ha, hrest, rfl⟩

theorem classify_of_forall₂
    (h : List.Forall₂ (fun t a => t ≠ ("--" : Text) ∧ f.classifyOne t = some a) xs kinds) :
    f.classify xs = some kinds := by
  induction h with
  | nil => rfl
  | cons hfirst _ ih =>
    obtain ⟨hdashes, hkind⟩ := hfirst
    rw [classify_cons hdashes, hkind, ih]
    rfl

theorem classifyOne_operand (h : Text.after? "-" t = none) :
    f.classifyOne t = some (.operand t) := by
  rw [classifyOne, if_pos (.inl (by rw [h]; rfl))]

theorem ne_dashes (h : Text.after? "-" t = none) : t ≠ ("--" : Text) := by
  rintro rfl
  cases h

theorem map_text_operand (xs : List Text) : (xs.map Argument.operand).map Argument.text = xs := by
  rw [List.map_map]
  exact List.map_id xs

/-- **The kinds of arguments keep their texts**, and behind two dashes alone are operands only. -/
theorem of_classify (h : f.classify xs = some kinds) :
    kinds.map (·.text) = xs ∧ (∀ a ∈ kinds, f.IsOf a)
      ∧ (("--" : Text) ∉ xs → ∀ a ∈ kinds, isSeparator a = false)
      ∧ (("--" : Text) ∈ xs → ∃ front, ∃ operands : List Text,
        kinds = front ++ .separator :: operands.map .operand) := by
  induction xs generalizing kinds with
  | nil =>
    cases h
    exact ⟨rfl, nofun, fun _ => nofun, nofun⟩
  | cons t xs ih =>
    by_cases hdashes : t = "--"
    · rw [classify, if_pos hdashes] at h
      cases h
      refine ⟨?_, ?_, ?_, fun _ => ⟨[], xs, rfl⟩⟩
      · rw [List.map_cons, map_text_operand, hdashes]
        rfl
      · intro a ha
        rcases List.mem_cons.mp ha with rfl | ha
        · trivial
        · obtain ⟨t, -, rfl⟩ := List.mem_map.mp ha
          trivial
      · exact fun hnot => absurd (List.mem_cons.mpr (.inl hdashes.symm)) hnot
    · obtain ⟨a, rest, ha, hrest, rfl⟩ := of_classify_cons h hdashes
      obtain ⟨htext, hseparator, hof⟩ := of_classifyOne ha hdashes
      obtain ⟨htexts, hofs, hnone, hsome⟩ := ih hrest
      refine ⟨by rw [List.map_cons, htext, htexts], ?_, ?_, ?_⟩
      · exact List.forall_mem_cons.mpr ⟨hof, hofs⟩
      · intro hnot
        exact List.forall_mem_cons.mpr ⟨hseparator, hnone fun hmem => hnot (.tail _ hmem)⟩
      · intro hmem
        have hmem : ("--" : Text) ∈ xs :=
          (List.mem_cons.mp hmem).resolve_left fun heq => hdashes heq.symm
        obtain ⟨front, operands, rfl⟩ := hsome hmem
        exact ⟨a :: front, operands, rfl⟩

/-- **More arguments come behind**: as what they are, or as operands if two dashes alone are in
front of them. -/
theorem classify_append (h : f.classify xs = some kinds) (hmore : f.classify ys = some more) :
    f.classify (xs ++ ys)
      = some (kinds ++ if ("--" : Text) ∈ xs then ys.map .operand else more) := by
  induction xs generalizing kinds with
  | nil =>
    cases h
    exact hmore
  | cons t xs ih =>
    by_cases hdashes : t = "--"
    · rw [classify, if_pos hdashes] at h
      cases h
      rw [List.cons_append, classify, if_pos hdashes, if_pos (by simp [hdashes]), List.map_append]
      rfl
    · obtain ⟨a, rest, ha, hrest, rfl⟩ := of_classify_cons h hdashes
      have hmem : ("--" : Text) ∈ t :: xs ↔ ("--" : Text) ∈ xs := by
        rw [List.mem_cons, or_iff_right fun heq => hdashes heq.symm]
      rw [List.cons_append, classify_cons hdashes, ha, ih hrest, Option.bind_some, Option.map_some]
      simp only [hmem]
      rfl

/-! ## 2. Switches -/

/-- **What a switch takes is told by the operands that it uses**, whatever is behind them. -/
theorem of_takeSwitch (h : f.takeSwitch steps met kinds = some (taken, rest)) :
    ∃ used : List Text, kinds = used.map .operand ++ rest
      ∧ (∀ other, f.takeSwitch steps met (used.map .operand ++ other) = some (taken, other))
      ∧ ∀ x ∈ taken, ∃ key value, x = .switch key value := by
  -- One step is one of the short switches behind a dash; only the last can use an operand.
  induction steps generalizing met taken with
  | zero => cases h
  | succ steps ih =>
    unfold takeSwitch at h ⊢
    cases hattached : met.attached with
    | none =>
      cases hvalue : met.switch.takesValue with
      | true =>
        rw [hattached, hvalue] at h
        dsimp only at h
        split at h
        case h_1 =>
          cases h
          exact ⟨[_], rfl, fun _ => rfl, by simp⟩
        case h_2 => cases h
      | false =>
        rw [hattached, hvalue] at h
        cases h
        exact ⟨[], rfl, fun _ => rfl, by simp⟩
    | some attached =>
      cases hvalue : met.switch.takesValue with
      | true =>
        rw [hattached, hvalue] at h
        cases h
        exact ⟨[], rfl, fun _ => rfl, by simp⟩
      | false =>
        rw [hattached, hvalue] at h
        cases attached with
        | nil => cases h
        | cons letter letters =>
          dsimp only at h ⊢
          by_cases hlong : isLong met.spelled = true
          · rw [if_pos hlong] at h
            cases h
          rw [if_neg hlong] at h
          obtain ⟨s, hs, h⟩ := Option.bind_eq_some_iff.mp h
          obtain ⟨⟨later, behind⟩, hnext, h⟩ := Option.bind_eq_some_iff.mp h
          cases h
          obtain ⟨used, hused, hany, hkinds⟩ := ih hnext
          refine ⟨used, hused, fun other => ?_, by simpa using hkinds⟩
          rw [if_neg hlong, hs]
          exact congrArg (fun next : Option (List Taken × List Argument) => next.bind fun next =>
            some (.switch met.switch.key none :: next.1, next.2)) (hany other)

/-- Where no switch takes a value, no operand is used. -/
theorem rest_eq_of_takeSwitch (hflags : ∀ s ∈ f.switches, s.takesValue = false)
    (hmet : met.switch ∈ f.switches) (h : f.takeSwitch steps met kinds = some (taken, rest)) :
    rest = kinds := by
  induction steps generalizing met taken with
  | zero => cases h
  | succ steps ih =>
    unfold takeSwitch at h
    rw [hflags met.switch hmet] at h
    cases hattached : met.attached with
    | none =>
      rw [hattached] at h
      cases h
      rfl
    | some attached =>
      rw [hattached] at h
      cases attached with
      | nil => cases h
      | cons letter letters =>
        dsimp only at h
        by_cases hlong : isLong met.spelled = true
        · rw [if_pos hlong] at h
          cases h
        rw [if_neg hlong] at h
        obtain ⟨s, hs, h⟩ := Option.bind_eq_some_iff.mp h
        obtain ⟨⟨later, behind⟩, hnext, h⟩ := Option.bind_eq_some_iff.mp h
        cases h
        exact ih (mem_switches_of_switch? hs) hnext

/-- The arguments are switches alone, with the operands that they use. -/
inductive Switches (f : Form) : List Argument → List Taken → Prop
  | nil : Switches f [] []
  | cons {met : Met} {t : Text} {used : List Text} {taken later : List Taken}
      {rest : List Argument} :
      f.IsOf (.switch (some met) t) →
      (∀ other, f.takeSwitch (t.length + 1) met (used.map .operand ++ other)
        = some (taken, other)) →
      Switches f rest later →
      Switches f (.switch (some met) t :: (used.map .operand ++ rest)) (taken ++ later)

namespace Switches

theorem append (h : Switches f front first) (h' : Switches f back last) :
    Switches f (front ++ back) (first ++ last) := by
  induction h with
  | nil => exact h'
  | cons hmet htaken _ ih =>
    rw [List.cons_append, List.append_assoc, List.append_assoc]
    exact .cons hmet htaken ih

theorem not_separator (h : Switches f kinds taken) : Argument.separator ∉ kinds := by
  induction h with
  | nil => exact List.not_mem_nil
  | cons _ _ _ ih => simpa using ih

theorem taken_switch (h : Switches f kinds taken) :
    ∀ x ∈ taken, ∃ key value, x = .switch key value := by
  induction h with
  | nil => exact nofun
  | @cons met t used taken later rest hmet htaken hrest ih =>
    obtain ⟨-, -, -, hswitch⟩ := of_takeSwitch (htaken [])
    intro x hx
    exact (List.mem_append.mp hx).elim (hswitch x) (ih x)

/-- A switch is in front. -/
theorem head?_isSwitch (h : Switches f kinds taken) : ∀ a ∈ kinds.head?, isSwitch a = true := by
  cases h with
  | nil => exact nofun
  | cons =>
    rintro a ⟨⟩
    rfl

/-- Where no switch takes a value, there is nothing but switches. -/
theorem forall_text (hflags : ∀ s ∈ f.switches, s.takesValue = false)
    (h : Switches f kinds taken) :
    ∀ a ∈ kinds, (Text.after? "-" a.text).isSome ∧ a.text ≠ "--" := by
  induction h with
  | nil => exact nofun
  | @cons met t used taken later rest hof htaken hrest ih =>
    obtain ⟨hstart, hdashes, hknown⟩ := hof
    have hused := rest_eq_of_takeSwitch hflags (hknown met rfl) (htaken [])
    rw [List.append_nil] at hused
    rw [← hused]
    exact List.forall_mem_cons.mpr ⟨⟨hstart, hdashes⟩, ih⟩

end Switches

/-! ## 3. Operands -/

theorem span_append {p : Argument → Bool} (hfront : ∀ a ∈ front, p a = true)
    (hback : ∀ a ∈ back.head?, p a = false) : (front ++ back).span p = (front, back) := by
  induction front with
  | nil =>
    cases back with
    | nil => rfl
    | cons a back => simp [List.span_eq_takeWhile_dropWhile, hback a rfl]
  | cons a front ih =>
    obtain ⟨ha, hfront⟩ := List.forall_mem_cons.mp hfront
    have hrest := ih hfront
    rw [List.span_eq_takeWhile_dropWhile] at hrest ⊢
    obtain ⟨htake, hdrop⟩ := Prod.mk.inj hrest
    rw [List.cons_append, List.takeWhile_cons_of_pos ha, List.dropWhile_cons_of_pos ha, htake,
      hdrop]

theorem exists_span (p : Argument → Bool) (kinds : List Argument) :
    ∃ front back, kinds = front ++ back ∧ (∀ a ∈ front, p a = true)
      ∧ ∀ a ∈ back.head?, p a = false := by
  refine ⟨kinds.takeWhile p, kinds.dropWhile p, List.takeWhile_append_dropWhile.symm, ?_, ?_⟩
  · exact fun a ha => List.mem_takeWhile_imp ha
  · intro a ha
    have := List.head?_dropWhile_not p kinds
    rw [ha] at this
    simpa using this

/-- Operands are taken from the first operand on; what is in front of it are separators. -/
theorem of_takeOperands {result : List Text × List Argument}
    (h : takeOperands wanted kinds = some result) :
    ∃ dashes t more, kinds = dashes ++ .operand t :: more
      ∧ ∀ a ∈ dashes, isSeparator a = true := by
  obtain ⟨dashes, rest, rfl, hdashes, hrest⟩ := exists_span isSeparator kinds
  rw [takeOperands, span_append hdashes hrest] at h
  dsimp only at h
  split at h
  case h_1 t more => exact ⟨dashes, t, more, rfl, hdashes⟩
  case h_2 => cases h

theorem takeOperands_eq (h : ∀ a ∈ front, isSeparator a = true) :
    takeOperands wanted (front ++ .operand t :: more)
      = match wanted with
        | .none => none
        | .one =>
          some ((front.map (·.text) ++ t :: (more.span isSeparator).1.map (·.text)).erase "--",
            (more.span isSeparator).2)
        | .many =>
          some ((front.map (·.text) ++ t :: (more.span (!isSwitch ·)).1.map (·.text)).erase "--",
            (more.span (!isSwitch ·)).2)
        | .command => some (front.map (·.text) ++ t :: more.map (·.text), []) := by
  have hspan : (front ++ .operand t :: more).span isSeparator = (front, .operand t :: more) := by
    refine span_append h ?_
    rintro a ⟨⟩
    rfl
  cases wanted <;> simp only [takeOperands, hspan]

/-- One operand is taken, and no more than that. -/
theorem takeOperands_one (hdashes : t ≠ ("--" : Text))
    (hmore : ∀ a ∈ more.head?, isSeparator a = false) :
    takeOperands .one (.operand t :: more) = some ([t], more) := by
  have hspan : ([] ++ more).span isSeparator = ([], more) := span_append nofun hmore
  rw [List.nil_append] at hspan
  show takeOperands .one ([] ++ .operand t :: more) = _
  rw [takeOperands_eq (List.forall_mem_nil _), hspan]
  simp [hdashes]

theorem takeOperands_none : takeOperands .none kinds = none := by
  cases h : takeOperands .none kinds with
  | none => rfl
  | some result =>
    obtain ⟨dashes, t, more, rfl, hdashes⟩ := of_takeOperands h
    rw [takeOperands_eq hdashes] at h
    cases h

/-- Operands are taken off the front, and at least one is. -/
theorem exists_of_takeOperands (h : takeOperands wanted kinds = some (values, rest)) :
    ∃ group, group ≠ [] ∧ kinds = group ++ rest := by
  obtain ⟨dashes, t, more, rfl, hdashes⟩ := of_takeOperands h
  rw [takeOperands_eq hdashes] at h
  cases wanted with
  | none => cases h
  | one =>
    cases h
    refine ⟨dashes ++ .operand t :: (more.span isSeparator).1, by simp, ?_⟩
    simp [List.span_eq_takeWhile_dropWhile]
  | many =>
    cases h
    refine ⟨dashes ++ .operand t :: (more.span (!isSwitch ·)).1, by simp, ?_⟩
    simp [List.span_eq_takeWhile_dropWhile]
  | command =>
    cases h
    exact ⟨dashes ++ .operand t :: more, by simp, by simp⟩

/-- A switch behind operands ends their group. -/
theorem takeOperands_many_append (h : takeOperands .many middle = some (values, back))
    (hhead : ∀ a ∈ more.head?, isSwitch a = true) :
    takeOperands .many (middle ++ more) = some (values, back ++ more) := by
  obtain ⟨dashes, t, rest, rfl, hdashes⟩ := of_takeOperands h
  obtain ⟨group, behind, rfl, hgroup, hbehind⟩ := exists_span (!isSwitch ·) rest
  have hnext : ∀ a ∈ (behind ++ more).head?, (!isSwitch a) = false := by
    cases behind with
    | nil => exact fun a ha => by rw [hhead a ha]; rfl
    | cons b behind => exact hbehind
  rw [takeOperands_eq hdashes, span_append hgroup hbehind] at h
  cases h
  rw [List.append_assoc, List.cons_append, List.append_assoc, takeOperands_eq hdashes,
    span_append hgroup hnext]

/-- Operands behind a group with two dashes alone in it belong to it. -/
theorem takeOperands_many_operands (h : takeOperands .many middle = some (values, []))
    (hseparator : .separator ∈ middle) :
    takeOperands .many (middle ++ ys.map .operand) = some (values ++ ys, []) := by
  obtain ⟨dashes, t, rest, rfl, hdashes⟩ := of_takeOperands h
  obtain ⟨group, behind, rfl, hgroup, hbehind⟩ := exists_span (!isSwitch ·) rest
  rw [takeOperands_eq hdashes, span_append hgroup hbehind] at h
  cases h
  rw [List.append_nil] at hseparator ⊢
  -- The two dashes that are left out of the values are in front of the operands that are new.
  have hlonger : ∀ a ∈ group ++ ys.map Argument.operand, (!isSwitch a) = true := by
    intro a ha
    rcases List.mem_append.mp ha with ha | ha
    · exact hgroup a ha
    · obtain ⟨y, -, rfl⟩ := List.mem_map.mp ha
      rfl
  have hspan : (group ++ ys.map Argument.operand ++ []).span (!isSwitch ·)
      = (group ++ ys.map Argument.operand, []) :=
    span_append hlonger nofun
  have hdash : ("--" : Text) ∈ dashes.map (·.text) ++ t :: group.map (·.text) := by
    have := List.mem_map_of_mem (f := Argument.text) hseparator
    rwa [List.map_append, List.map_cons] at this
  rw [List.append_nil] at hspan
  rw [List.append_assoc, List.cons_append, takeOperands_eq hdashes, hspan,
    ← List.erase_append_left _ hdash, List.map_append, map_text_operand, List.append_assoc,
    List.cons_append]

/-- The command of a program is what its first operand is, and has the rest of the arguments. -/
theorem of_takeOperands_command (h : takeOperands .command middle = some (values, back)) :
    back = [] ∧ values = middle.map (·.text)
      ∧ ∀ more, takeOperands .command (middle ++ more)
        = some (values ++ more.map (·.text), []) := by
  obtain ⟨dashes, t, rest, rfl, hdashes⟩ := of_takeOperands h
  rw [takeOperands_eq hdashes] at h
  cases h
  refine ⟨rfl, by rw [List.map_append, List.map_cons]; rfl, fun more => ?_⟩
  rw [List.append_assoc, List.cons_append, takeOperands_eq hdashes]
  simp

/-! ## 4. Scans -/

theorem scanFrom_switch (h : f.takeSwitch (t.length + 1) met kinds = some (taken, rest)) :
    f.scanFrom (steps + 1) wanted (.switch (some met) t :: kinds)
      = { f.scanFrom steps wanted rest with
          taken := taken ++ (f.scanFrom steps wanted rest).taken } := by
  rw [scanFrom, h]
  rfl

theorem scanFrom_cons (ha : isSwitch a = false) :
    f.scanFrom (steps + 1) wanted (a :: kinds)
      = match takeOperands wanted (a :: kinds) with
        | some (values, rest) =>
          { f.scanFrom steps .none rest with
            taken := .operands values :: (f.scanFrom steps .none rest).taken }
        | none =>
          let (unknown, rest) := (a :: kinds).span (!isSwitch ·)
          { f.scanFrom steps wanted rest with
            leftOver := unknown.map (·.text) ++ (f.scanFrom steps wanted rest).leftOver } := by
  cases a with
  | switch => cases ha
  | separator => rfl
  | operand => rfl

theorem scanFrom_takeOperands (h : takeOperands wanted kinds = some (values, rest)) :
    f.scanFrom (steps + 1) wanted kinds
      = { f.scanFrom steps .none rest with
          taken := .operands values :: (f.scanFrom steps .none rest).taken } := by
  obtain ⟨dashes, t, more, hkinds, hdashes⟩ := of_takeOperands h
  obtain ⟨a, behind, rfl, ha⟩ : ∃ a behind, kinds = a :: behind ∧ isSwitch a = false := by
    cases dashes with
    | nil => exact ⟨_, _, hkinds, rfl⟩
    | cons dash dashes =>
      have hdash := hdashes dash (.head _)
      cases dash with
      | separator => exact ⟨_, _, hkinds, rfl⟩
      | operand => cases hdash
      | switch => cases hdash
  rw [scanFrom_cons ha, h]

/-- The arguments are switches, a group of operands, and switches. -/
inductive Grouped (f : Form) (wanted : Operands) : List Argument → List Taken → Prop
  | intro {front middle back : List Argument} {first last : List Taken} {values : List Text} :
      Switches f front first → takeOperands wanted middle = some (values, back) →
      Switches f back last → Grouped f wanted (front ++ middle) (first ++ .operands values :: last)

theorem not_grouped_none : ¬Grouped f .none kinds taken := by
  rintro ⟨-, hmiddle, -⟩
  rw [takeOperands_none] at hmiddle
  cases hmiddle

/-- **A scan that goes well and leaves nothing over** has met switches alone, or one group of
operands among them. -/
theorem of_scanFrom (hof : ∀ a ∈ kinds, f.IsOf a)
    (hfailed : (f.scanFrom steps wanted kinds).failed = false)
    (hleft : (f.scanFrom steps wanted kinds).leftOver = []) :
    Switches f kinds (f.scanFrom steps wanted kinds).taken
      ∨ Grouped f wanted kinds (f.scanFrom steps wanted kinds).taken := by
  induction steps generalizing wanted kinds with
  | zero => cases hfailed
  | succ steps ih =>
    cases kinds with
    | nil => exact .inl .nil
    | cons a rest =>
      cases ha : isSwitch a with
      | false =>
        -- What is no switch has to begin the group, as nothing is left over.
        cases htake : takeOperands wanted (a :: rest) with
        | none =>
          rw [scanFrom_cons ha, htake] at hleft
          have hnone := List.map_eq_nil_iff.mp (List.append_eq_nil_iff.mp hleft).1
          rw [List.span_eq_takeWhile_dropWhile, List.takeWhile_cons_of_pos (by rw [ha]; rfl)]
            at hnone
          cases hnone
        | some result =>
          obtain ⟨values, back⟩ := result
          obtain ⟨group, -, hgroup⟩ := exists_of_takeOperands htake
          rw [scanFrom_takeOperands htake] at hfailed hleft ⊢
          rw [hgroup] at hof
          have hback : ∀ a ∈ back, f.IsOf a := fun a ha => hof a (List.mem_append_right _ ha)
          rcases ih hback hfailed hleft with hlast | hgrouped
          · exact .inr (.intro .nil htake hlast)
          · exact absurd hgrouped not_grouped_none
      | true =>
        match a with
        | .switch none t =>
          rw [scanFrom] at hleft
          cases hleft
        | .switch (some met) t =>
          cases htake : f.takeSwitch (t.length + 1) met rest with
          | none =>
            rw [scanFrom, htake] at hfailed
            cases hfailed
          | some result =>
            obtain ⟨taken, behind⟩ := result
            obtain ⟨used, rfl, hany, -⟩ := of_takeSwitch htake
            rw [scanFrom_switch htake] at hfailed hleft ⊢
            obtain ⟨hmet, hof⟩ := List.forall_mem_cons.mp hof
            have hbehind : ∀ a ∈ behind, f.IsOf a := fun a ha => hof a (List.mem_append_right _ ha)
            dsimp only
            rcases ih hbehind hfailed hleft with hlast | hgrouped
            · exact .inl (.cons hmet hany hlast)
            · refine .inr ?_
              generalize (f.scanFrom steps wanted behind).taken = later at hgrouped ⊢
              obtain ⟨hfront, hmiddle, hback⟩ := hgrouped
              rw [← List.append_assoc, ← List.append_assoc, ← List.cons_append]
              exact .intro (.cons hmet hany hfront) hmiddle hback

/-- Switches in front are taken, in as many steps as there are of them. -/
theorem exists_scanFrom (wanted : Operands) (h : Switches f front first)
    (hsteps : (front ++ rest).length < steps) :
    ∃ left, rest.length < left
      ∧ f.scanFrom steps wanted (front ++ rest)
        = { f.scanFrom left wanted rest with
            taken := first ++ (f.scanFrom left wanted rest).taken } := by
  -- A step takes one switch with all that it uses, so steps never run out before arguments do.
  induction h generalizing steps with
  | nil => exact ⟨steps, hsteps, rfl⟩
  | @cons met t used taken later behind hmet htaken hrest ih =>
    cases steps with
    | zero => exact absurd hsteps (Nat.not_lt_zero _)
    | succ steps =>
      have hfewer : (behind ++ rest).length < steps := by
        simp only [List.cons_append, List.length_cons, List.length_append] at hsteps ⊢
        omega
      obtain ⟨left, hleft, hscan⟩ := ih hfewer
      refine ⟨left, hleft, ?_⟩
      rw [List.cons_append, List.append_assoc, scanFrom_switch (htaken _), hscan,
        List.append_assoc]

theorem scanFrom_switches (h : Switches f kinds taken) (hsteps : kinds.length < steps) :
    f.scanFrom steps wanted kinds = { taken } := by
  rw [← List.append_nil kinds] at hsteps
  obtain ⟨left, hleft, hscan⟩ := exists_scanFrom wanted h hsteps
  obtain ⟨left, rfl⟩ := Nat.exists_eq_add_one_of_ne_zero (Nat.ne_of_gt hleft)
  rw [List.append_nil] at hscan
  rw [hscan, scanFrom, List.append_nil]

/-- **Arguments with one group of operands are taken**, in as many steps as there are of them. -/
theorem scanFrom_grouped (h : Grouped f wanted kinds taken) (hsteps : kinds.length < steps) :
    f.scanFrom steps wanted kinds = { taken } := by
  obtain ⟨hfront, hmiddle, hback⟩ := h
  obtain ⟨left, hleft, hscan⟩ := exists_scanFrom wanted hfront hsteps
  obtain ⟨left, rfl⟩ := Nat.exists_eq_add_one_of_ne_zero (Nat.ne_of_gt (Nat.zero_lt_of_lt hleft))
  obtain ⟨group, hgroup, rfl⟩ := exists_of_takeOperands hmiddle
  have hpositive := List.length_pos_iff.mpr hgroup
  rw [List.length_append] at hleft
  rw [hscan, scanFrom_takeOperands hmiddle, scanFrom_switches hback (by omega)]

theorem scan_eq (hkinds : f.classify xs = some kinds) :
    f.scan xs = f.scanFrom (kinds.length + 1) f.operands kinds := by
  obtain ⟨htexts, -⟩ := of_classify hkinds
  rw [scan, hkinds, ← htexts, List.length_map]

theorem scan_grouped (hkinds : f.classify xs = some kinds) (h : Grouped f f.operands kinds taken) :
    f.scan xs = { taken } := by
  rw [scan_eq hkinds]
  exact scanFrom_grouped h (Nat.lt_succ_self _)

theorem of_scan (hfailed : (f.scan xs).failed = false) (hleft : (f.scan xs).leftOver = []) :
    ∃ kinds, f.classify xs = some kinds
      ∧ (Switches f kinds (f.scan xs).taken ∨ Grouped f f.operands kinds (f.scan xs).taken) := by
  cases hkinds : f.classify xs with
  | none =>
    rw [scan, hkinds] at hfailed
    cases hfailed
  | some kinds =>
    obtain ⟨-, hof, -⟩ := of_classify hkinds
    rw [scan_eq hkinds] at hfailed hleft ⊢
    exact ⟨kinds, rfl, of_scanFrom hof hfailed hleft⟩

/-! ## 5. More arguments -/

/-- More switches may come behind. -/
theorem Grouped.append_switches (h : Grouped f .many kinds taken) (h' : Switches f more last) :
    Grouped f .many (kinds ++ more) (taken ++ last) := by
  obtain ⟨hfront, hmiddle, hback⟩ := h
  rw [List.append_assoc, List.append_assoc, List.cons_append]
  exact .intro hfront (takeOperands_many_append hmiddle h'.head?_isSwitch) (hback.append h')

/-- **Operands behind two dashes alone belong to the group**, which is last then. -/
theorem Grouped.append_operands {xs : List Text} (h : Grouped f .many kinds taken)
    (hdashes : kinds = front ++ .separator :: xs.map .operand) (ys : List Text) :
    ∃ first values, taken = first ++ [.operands values]
      ∧ Grouped f .many (kinds ++ ys.map .operand) (first ++ [.operands (values ++ ys)]) := by
  obtain ⟨hfront, hmiddle, hback⟩ := h
  rename_i switches middle back first last values
  obtain ⟨group, -, rfl⟩ := exists_of_takeOperands hmiddle
  -- Switches hold no two dashes alone, and behind them there are no switches.
  have hnone : back = [] := by
    rw [← List.append_assoc] at hdashes
    rcases List.append_eq_append_iff.mp hdashes with ⟨between, -, hsplit⟩ | ⟨between, -, hsplit⟩
    · exact absurd (hsplit ▸ List.mem_append_right _ (.head _)) hback.not_separator
    · cases between with
      | nil =>
        rw [List.nil_append] at hsplit
        exact absurd (hsplit ▸ .head _) hback.not_separator
      | cons dash between =>
        obtain ⟨-, hoperands⟩ := List.cons.inj hsplit
        cases back with
        | nil => rfl
        | cons a back =>
          have ha : a ∈ xs.map Argument.operand := hoperands ▸ List.mem_append_right _ (.head _)
          obtain ⟨x, -, rfl⟩ := List.mem_map.mp ha
          cases hback.head?_isSwitch _ rfl
  subst hnone
  have hmem : Argument.separator ∈ group ++ [] := by
    have : Argument.separator ∈ switches ++ (group ++ []) :=
      hdashes ▸ List.mem_append_right _ (.head _)
    exact (List.mem_append.mp this).resolve_left hfront.not_separator
  cases hback
  refine ⟨first, values, rfl, ?_⟩
  rw [List.append_assoc]
  exact .intro hfront (takeOperands_many_operands hmiddle hmem) .nil

/-- **A command has all arguments behind it.** -/
theorem Grouped.append_command (h : Grouped f .command kinds taken) :
    ∃ front middle first, kinds = front ++ middle ∧ Switches f front first
      ∧ taken = first ++ [.operands (middle.map (·.text))]
      ∧ ∀ more, Grouped f .command (kinds ++ more)
        (first ++ [.operands (middle.map (·.text) ++ more.map (·.text))]) := by
  obtain ⟨hfront, hmiddle, hback⟩ := h
  obtain ⟨rfl, rfl, hlonger⟩ := of_takeOperands_command hmiddle
  cases hback
  refine ⟨_, _, _, rfl, hfront, rfl, fun more => ?_⟩
  rw [List.append_assoc]
  exact .intro hfront (hlonger more) .nil

end SongSheet.Command.Form
