import SongSheet.Command.Invocation
import SongSheet.Proofs.Command.Switch
import SongSheet.Proofs.Traversal

/-!
# Invocations — a settings file where none is named

The program names its own settings file at the end of arguments for converting that name none. It
looks for the switch by its full name only, and what comes last counts, so **the file it names takes
the place of one that is named in another way, and becomes an input behind two dashes alone**
(`read_withSettingsFile`). All else that the arguments ask for stays.
-/

set_option autoImplicit false

namespace SongSheet.Command

open Form

variable {arguments inputs : List Text} {file : Text} {r r' : ConvertRequest} {taken : List Taken}
  {α : Type} {step : α → Taken → Except Exit α} {start : α}

/-! ## 1. What is taken, in order -/

theorem follow_concat (x : Taken) :
    follow step start (taken ++ [x]) = (follow step start taken).bind (step · x) := by
  rw [follow, List.foldlM_append]
  exact bind_congr fun a => bind_pure _

theorem of_finish {scan : Scan} {value : α} {read : α × List Text}
    (h : finish scan value = .ok read) : scan.failed = false ∧ read = (value, scan.leftOver) := by
  rw [finish] at h
  split at h
  case isTrue => cases h
  case isFalse hfailed =>
    cases h
    exact ⟨Bool.eq_false_iff.mpr hfailed, rfl⟩

/-- Switches of converting leave the inputs. -/
theorem inputs_of_follow (htaken : ∀ x ∈ taken, ∃ key value, x = .switch key value)
    (h : follow convertStep r taken = .ok r') : r'.inputs = r.inputs := by
  induction taken generalizing r with
  | nil =>
    cases h
    rfl
  | cons x taken ih =>
    obtain ⟨hx, hrest⟩ := List.forall_mem_cons.mp htaken
    obtain ⟨key, value, rfl⟩ := hx
    obtain ⟨next, hnext, h⟩ := bind_eq_ok h
    rw [ih hrest h]
    simp only [convertStep] at hnext
    split_ifs at hnext <;> cases hnext <;> rfl

/-- Switches of the program leave the request. -/
theorem of_follow_programStep {state state' : Invocation × List Text}
    (htaken : ∀ x ∈ taken, ∃ key value, x = .switch key value)
    (h : follow programStep state taken = .ok state') :
    state'.1.request = state.1.request ∧ state'.2 = state.2 := by
  induction taken generalizing state with
  | nil =>
    cases h
    exact ⟨rfl, rfl⟩
  | cons x taken ih =>
    obtain ⟨hx, hrest⟩ := List.forall_mem_cons.mp htaken
    obtain ⟨key, value, rfl⟩ := hx
    obtain ⟨next, hnext, h⟩ := bind_eq_ok h
    obtain ⟨hrequest, hunknown⟩ := ih hrest h
    rw [hrequest, hunknown]
    simp only [programStep] at hnext
    split_ifs at hnext
    cases hnext
    exact ⟨rfl, rfl⟩

/-! ## 2. Arguments of converting -/

theorem of_readConvert (h : readConvert arguments = .ok (.convert r, [])) :
    ∃ kinds taken, convertForm.classify arguments = some kinds
      ∧ Grouped convertForm .many kinds taken
      ∧ follow convertStep { inputs := [] } taken = .ok r ∧ r.inputs ≠ [] := by
  rw [readConvert] at h
  obtain ⟨request, hfollow, h⟩ := bind_eq_ok h
  obtain ⟨read, hfinish, h⟩ := bind_eq_ok h
  obtain ⟨hfailed, rfl⟩ := of_finish hfinish
  dsimp only at h
  split at h
  case isTrue => cases h
  case isFalse hinputs =>
    obtain ⟨hrequest, hleft⟩ := Prod.mk.inj (Except.ok.inj h)
    cases hrequest
    obtain ⟨kinds, hkinds, hswitches | hgrouped⟩ := of_scan hfailed hleft
    · rw [inputs_of_follow hswitches.taken_switch hfollow] at hinputs
      exact absurd rfl hinputs
    · exact ⟨kinds, _, hkinds, hgrouped, hfollow, fun hnone => hinputs (by rw [hnone]; rfl)⟩

theorem readConvert_grouped {kinds : List Argument}
    (hkinds : convertForm.classify arguments = some kinds)
    (hgrouped : Grouped convertForm .many kinds taken)
    (hfollow : follow convertStep { inputs := [] } taken = .ok r) (hinputs : r.inputs ≠ []) :
    readConvert arguments = .ok (.convert r, []) := by
  have hsome : ¬r.inputs.isEmpty = true := fun hnone => hinputs (List.isEmpty_iff.mp hnone)
  rw [readConvert, scan_grouped hkinds hgrouped]
  dsimp only
  rw [hfollow]
  exact if_neg hsome

/-- A switch with a value, met by its full name. -/
def metValue (name : Text) : Met := { switch := valueSwitch name, spelled := name }

/-- A switch takes the value behind it. -/
theorem switches_value {f : Form} {name : Text} (h : f.IsOf (.switch (some (metValue name)) name))
    (value : Text) :
    Switches f [.switch (some (metValue name)) name, .operand value]
      [.switch name (some value)] := by
  have htakes : ∀ other, f.takeSwitch (name.length + 1) (metValue name)
      ([value].map .operand ++ other) = some ([.switch name (some value)], other) :=
    fun _ => rfl
  exact .cons h htakes .nil

theorem isOf_metValue {f : Form} {name : Text} (hdash : (Text.after? "-" name).isSome = true)
    (hdashes : name ≠ ("--" : Text)) (hknown : valueSwitch name ∈ f.switches) :
    f.IsOf (.switch (some (metValue name)) name) := by
  refine ⟨hdash, hdashes, ?_⟩
  rintro m ⟨⟩
  exact hknown

theorem classify_config (hfile : Text.after? "-" file = none) :
    convertForm.classify [("--config" : Text), file]
        = some [.switch (some (metValue "--config")) "--config", .operand file]
      ∧ programForm.classify [("--config" : Text), file]
        = some [.switch none "--config", .operand file] := by
  have hoperand : ∀ f : Form, file ≠ ("--" : Text) ∧ f.classifyOne file = some (.operand file) :=
    fun f => ⟨ne_dashes hfile, classifyOne_operand hfile⟩
  exact ⟨classify_of_forall₂ (.cons ⟨by decide, rfl⟩ (.cons (hoperand _) .nil)),
    classify_of_forall₂ (.cons ⟨by decide, rfl⟩ (.cons (hoperand _) .nil))⟩

/-- **A settings file at the end** is that of the request, but behind two dashes alone it is an
input, and so is its switch. -/
theorem readConvert_append (hfile : Text.after? "-" file = none)
    (h : readConvert arguments = .ok (.convert r, [])) :
    readConvert (arguments ++ [("--config" : Text), file])
      = .ok (.convert (if ("--" : Text) ∈ arguments
          then { r with inputs := r.inputs ++ [("--config" : Text), file] }
          else { r with settingsFile := file }), []) := by
  obtain ⟨kinds, taken, hkinds, hgrouped, hfollow, hinputs⟩ := of_readConvert h
  have hmore := classify_append hkinds (classify_config hfile).1
  by_cases hdashes : ("--" : Text) ∈ arguments
  · -- The group of inputs is last then, and it grows.
    rw [if_pos hdashes] at hmore ⊢
    obtain ⟨-, -, -, hseparator⟩ := of_classify hkinds
    obtain ⟨front, operands, hsplit⟩ := hseparator hdashes
    obtain ⟨first, values, rfl, hlonger⟩ :=
      hgrouped.append_operands hsplit [("--config" : Text), file]
    rw [follow_concat] at hfollow
    obtain ⟨before, hbefore, hvalues⟩ := bind_eq_ok hfollow
    cases hvalues
    refine readConvert_grouped hmore hlonger ?_ (by simp)
    rw [follow_concat, hbefore]
    rfl
  · -- One more switch is followed last, so what it sets stays.
    rw [if_neg hdashes] at hmore ⊢
    have hof : convertForm.IsOf (.switch (some (metValue "--config")) "--config") :=
      isOf_metValue rfl (by decide) (by simp [convertForm])
    refine readConvert_grouped hmore (hgrouped.append_switches (switches_value hof file)) ?_ hinputs
    rw [follow_concat, hfollow]
    rfl

/-! ## 3. Arguments of the program -/

theorem of_readCommand {name : Text}
    (h : readCommand name arguments = .ok (.convert r, inputs)) :
    name = "convert" ∧ readConvert arguments = .ok (.convert r, inputs) := by
  rw [readCommand] at h
  split_ifs at h with hconvert hformats hmidi
  · exact ⟨hconvert, h⟩
  · rw [readFormats] at h
    obtain ⟨-, -, h⟩ := bind_eq_ok h
    obtain ⟨-, hread⟩ := of_finish h
    cases (Prod.mk.inj hread).1
  · rw [readMidi] at h
    obtain ⟨draft, -, h⟩ := bind_eq_ok h
    obtain ⟨⟨draft, leftOver⟩, -, h⟩ := bind_eq_ok h
    dsimp only at h
    split at h <;> cases h

/-- No switch of the program takes a value. -/
theorem programForm_flags : ∀ s ∈ programForm.switches, s.takesValue = false := by
  simp [programForm, helpSwitch, verboseSwitch]

/-- **Arguments for converting** are switches of the program, the command, and the arguments of
converting. More of them come behind those. -/
theorem of_read {verbose : Bool}
    (h : Invocation.read arguments = .ok ⟨verbose, some (.convert r)⟩) :
    ∃ before rest, arguments = before ++ ("convert" : Text) :: rest
      ∧ (∀ t ∈ before, (Text.after? "-" t).isSome ∧ t ≠ ("--" : Text))
      ∧ readConvert rest = .ok (.convert r, [])
      ∧ ∀ more kinds r', programForm.classify more = some kinds →
        readConvert (rest ++ more) = .ok (.convert r', []) →
        Invocation.read (arguments ++ more) = .ok ⟨verbose, some (.convert r')⟩ := by
  rw [Invocation.read] at h
  obtain ⟨⟨invocation, unknown⟩, hfollow, h⟩ := bind_eq_ok h
  obtain ⟨read, hfinish, h⟩ := bind_eq_ok h
  obtain ⟨hfailed, rfl⟩ := of_finish hfinish
  dsimp only at h
  split at h
  case isFalse => cases h
  case isTrue hnone =>
    cases h
    obtain ⟨hunknown, hleft⟩ := hnone
    obtain ⟨kinds, hkinds, hswitches | hgrouped⟩ :=
      of_scan hfailed (List.isEmpty_iff.mp hleft)
    · -- Switches alone ask for nothing.
      have := (of_follow_programStep hswitches.taken_switch hfollow).1
      cases this
    · obtain ⟨front, middle, first, rfl, hfront, htaken, hlonger⟩ := hgrouped.append_command
      rw [htaken, follow_concat] at hfollow
      obtain ⟨⟨state, others⟩, hfirst, hstep⟩ := bind_eq_ok hfollow
      obtain ⟨-, hothers⟩ := of_follow_programStep hfront.taken_switch hfirst
      cases hothers
      obtain ⟨htexts, -⟩ := of_classify hkinds
      rw [List.map_append] at htexts
      generalize hmiddle : middle.map (·.text) = values at hstep htexts
      cases values with
      | nil => cases hstep
      | cons name rest =>
        -- Nothing is left over, so the command is all that the request comes from.
        obtain ⟨⟨request, leftOver⟩, hcommand, hstep⟩ := bind_eq_ok hstep
        obtain ⟨hinvocation, hleftOver⟩ := Prod.mk.inj (Except.ok.inj hstep)
        obtain ⟨rfl, hrequest⟩ := Invocation.mk.inj hinvocation
        cases hrequest
        rw [← hleftOver, List.nil_append, List.isEmpty_iff] at hunknown
        subst hunknown
        obtain ⟨rfl, hconvert⟩ := of_readCommand hcommand
        refine ⟨front.map (·.text), rest, htexts.symm, ?_, hconvert, ?_⟩
        · intro t ht
          obtain ⟨a, ha, rfl⟩ := List.mem_map.mp ht
          exact hfront.forall_text programForm_flags a ha
        · intro more extra r' hextra hmore
          have hkinds := classify_append hkinds hextra
          have htexts : (if ("--" : Text) ∈ arguments then more.map Argument.operand
              else extra).map (·.text) = more := by
            split
            · exact map_text_operand more
            · exact (of_classify hextra).1
          have hscan := scan_grouped hkinds (hlonger _)
          have hread : readCommand "convert" (rest ++ more) = .ok (.convert r', []) := hmore
          rw [hmiddle, htexts] at hscan
          rw [Invocation.read, hscan]
          dsimp only
          rw [follow_concat, hfirst]
          simp only [Except.bind, programStep, List.cons_append, hread, ok_bind]
          rfl

/-- **A settings file behind arguments that name none** is that of the request, unless two dashes
alone are in front of it. Nothing else of the request changes, and it is still one. -/
theorem read_withSettingsFile {verbose : Bool} (hfile : Text.after? "-" file = none)
    (h : Invocation.read arguments = .ok ⟨verbose, some (.convert r)⟩) :
    Invocation.read (withSettingsFile file arguments)
      = .ok ⟨verbose, some (.convert (
          if ("--config" : Text) ∈ arguments then r
          else if ("--" : Text) ∈ arguments then
            { r with inputs := r.inputs ++ [("--config" : Text), file] }
          else { r with settingsFile := file }))⟩ := by
  obtain ⟨before, rest, rfl, hbefore, hread, hlonger⟩ := of_read h
  have hcommand : (before ++ ("convert" : Text) :: rest).find?
      (fun a => (Text.after? "-" a).isNone) = some "convert" := by
    refine List.find?_eq_some_iff_append.mpr ⟨by decide, before, rest, rfl, fun t ht => ?_⟩
    obtain ⟨behind, hstart⟩ := Option.isSome_iff_exists.mp (hbefore t ht).1
    rw [hstart]
    rfl
  have hdashes : ("--" : Text) ∈ before ++ ("convert" : Text) :: rest ↔ ("--" : Text) ∈ rest := by
    rw [List.mem_append, List.mem_cons, or_iff_right fun hmem => (hbefore _ hmem).2 rfl,
      or_iff_right (by decide)]
  rw [withSettingsFile, hcommand]
  by_cases hconfig : ("--config" : Text) ∈ before ++ ("convert" : Text) :: rest
  · rw [if_pos hconfig, if_neg (by simp [hconfig])]
    exact h
  · rw [if_neg hconfig, if_pos ⟨rfl, by simpa using hconfig⟩]
    simp only [hdashes]
    exact hlonger _ _ _ (classify_config hfile).2 (readConvert_append hfile hread)

/-! ## 4. What a settings file displaces -/

/-- The request with a settings file where it names none. -/
def ConvertRequest.orSettings (r : ConvertRequest) (file : Text) : ConvertRequest :=
  match r.settingsFile with
  | .scalar .null => { r with settingsFile := file }
  | _ => r

theorem orSettings_of_null (h : r.settingsFile = .null) :
    r.orSettings file = { r with settingsFile := file } := by
  rw [ConvertRequest.orSettings, h]
  rfl

theorem orSettings_of_named (h : r.settingsFile ≠ .null) : r.orSettings file = r := by
  rw [ConvertRequest.orSettings]
  split
  case h_1 hnull => exact absurd hnull h
  case h_2 => rfl

/-- **What becomes of arguments for converting** when the program names its settings file: they are
for converting still, with what `read_withSettingsFile` says. That only fills in what is missing, as
it is meant to, where the switch stands by its full name and names a file, or where it does not
stand so, no file or the same one is named in another way, and there are no two dashes alone. -/
theorem withSettingsFile_fills_iff {verbose : Bool} (hfile : Text.after? "-" file = none)
    (h : Invocation.read arguments = .ok ⟨verbose, some (.convert r)⟩) :
    Invocation.read (withSettingsFile file arguments)
        = .ok ⟨verbose, some (.convert (
            if ("--config" : Text) ∈ arguments then r
            else if ("--" : Text) ∈ arguments then
              { r with inputs := r.inputs ++ [("--config" : Text), file] }
            else { r with settingsFile := file }))⟩
      ∧ (Invocation.read (withSettingsFile file arguments)
          = .ok ⟨verbose, some (.convert (r.orSettings file))⟩
        ↔ if ("--config" : Text) ∈ arguments then r.settingsFile ≠ .null
          else ("--" : Text) ∉ arguments ∧ (r.settingsFile = .null ∨ r.settingsFile = file)) := by
  have hread := read_withSettingsFile hfile h
  refine ⟨hread, ?_⟩
  rw [hread, Except.ok.injEq, Invocation.mk.injEq, and_iff_right rfl, Option.some.injEq,
    Request.convert.injEq]
  by_cases hnull : r.settingsFile = .null
  · rw [orSettings_of_null hnull]
    split_ifs with hconfig hdashes
    · refine iff_of_false (fun heq => ?_) (absurd hnull)
      have := congrArg ConvertRequest.settingsFile heq
      rw [hnull] at this
      cases this
    · refine iff_of_false (fun heq => ?_) fun hnot => hnot.1 hdashes
      simpa using congrArg ConvertRequest.inputs heq
    · exact iff_of_true rfl ⟨hdashes, .inl hnull⟩
  · rw [orSettings_of_named hnull]
    split_ifs with hconfig hdashes
    · exact iff_of_true rfl hnull
    · refine iff_of_false (fun heq => ?_) fun hnot => hnot.1 hdashes
      simpa using congrArg ConvertRequest.inputs heq
    · rw [and_iff_right hdashes, or_iff_right hnull]
      constructor
      · exact fun heq => (congrArg ConvertRequest.settingsFile heq).symm
      · intro heq
        rw [← heq]

/-- A command without a settings file gets one. -/
theorem withSettingsFile_fills_iff_sample :
    Text.after? "-" "/sheets/config.yaml" = none
      ∧ Invocation.read ["-v", "convert", "a.txt", "--to=sky-studio-abc"]
        = .ok ⟨true, some (.convert
            { inputs := ["a.txt"], outputFormat := ("sky-studio-abc" : Text) })⟩
      ∧ Invocation.read
          (withSettingsFile "/sheets/config.yaml" ["-v", "convert", "a.txt", "--to=sky-studio-abc"])
        = .ok ⟨true, some (.convert
            { inputs := ["a.txt"], outputFormat := ("sky-studio-abc" : Text)
              settingsFile := ("/sheets/config.yaml" : Text) })⟩ := by
  have hfile : Text.after? "-" "/sheets/config.yaml" = none := by decide
  have hread : Invocation.read ["-v", "convert", "a.txt", "--to=sky-studio-abc"]
      = .ok ⟨true, some (.convert
          { inputs := ["a.txt"], outputFormat := ("sky-studio-abc" : Text) })⟩ := by
    rfl
  exact ⟨hfile, hread, (withSettingsFile_fills_iff hfile hread).2.mpr
    ⟨by decide, .inl rfl⟩⟩

/-- **A settings file that is named with an equals sign is displaced.** -/
theorem settings_file_displaced : ¬∀ (file : Text) (arguments : List Text) (verbose : Bool)
    (r : ConvertRequest), Text.after? "-" file = none →
    Invocation.read arguments = .ok ⟨verbose, some (.convert r)⟩ →
    Invocation.read (withSettingsFile file arguments)
      = .ok ⟨verbose, some (.convert (r.orSettings file))⟩ := by
  intro h
  have hkept := h "/sheets/config.yaml" ["convert", "a.txt", "--config=my.yaml"] false
    { inputs := ["a.txt"], settingsFile := ("my.yaml" : Text) } (by decide) (by rfl)
  have hdisplaced : Invocation.read
      (withSettingsFile "/sheets/config.yaml" ["convert", "a.txt", "--config=my.yaml"])
      = .ok ⟨false, some (.convert
          { inputs := ["a.txt"], settingsFile := ("/sheets/config.yaml" : Text) })⟩ := by
    rfl
  cases hdisplaced.symm.trans hkept

end SongSheet.Command
