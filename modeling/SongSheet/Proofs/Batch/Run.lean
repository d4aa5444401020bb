import SongSheet.Format
import SongSheet.Proofs.Batch.Turn

/-!
# Batches — one turn after the other

A batch is planned, and then every file has its turn, on the disk that those before it have left
(`Plan.after`). **The batch runs to its end exactly when every turn does** (`returns_iff_survive`):
what it comes to is then the number of files that failed at their turns, and every sheet was
written. A turn can fail to come to its end, as a text with surrogates has no octets and nothing
answers for that: then the batch ends with it, and the files behind it are not looked at.
-/

set_option autoImplicit false

namespace SongSheet.Batch

open Command

variable {p : Plan} {e : Encoding} {registry : Registry} {settings : Settings} {d d' : Disk}
  {w : Desk} {input : Path} {inputs : List Path}

/-! ## 1. Planning -/

/-- A plan is the one for settings on a disk: the format and the encoding are known, the key layout,
if one is named, can be read, and the directory can be made. -/
structure Plan.IsFor (p : Plan) (e : Encoding) (registry : Registry) (settings : Settings)
    (d : Disk) : Prop where
  registry_eq : p.registry = registry
  format : settings.outputFormat = .scalar (.text p.label)
  extension : registry.extension p.label = .ok p.extension
  encoding_eq : p.encoding = settings.encoding
  known : NamesEncoding settings.encoding e
  keyLayout : (settings.keyLayout.isSet = false ∧ p.keyLayout = none)
    ∨ ∃ file t, settings.keyLayout.isSet = true ∧ settings.keyLayout.text? = some file
      ∧ d.text e (Path.ofText file) = .ok (.ok t) ∧ p.keyLayout = some t
  directory_eq : ∃ t, settings.outputDir.text? = some t ∧ p.directory = Path.ofText t
  nameable : p.directory.fault? = none
  made : (d.makeDirectory p.directory).1 = .ok ()
  errorLogs_eq : p.errorLogs = settings.errorLogs.isSet
  verbose_eq : p.verbose = settings.verbose.isSet

/-- The disk when the first file has its turn. -/
def Plan.start (p : Plan) (d : Disk) : Disk := (d.makeDirectory p.directory).2

/-- **A batch is planned**, and its directory made. -/
theorem perform_prepare (h : p.IsFor e registry settings w.disk) :
    w.perform (prepare registry settings) = (.ok p, { w with disk := p.start w.disk }) := by
  obtain ⟨dir, hdir, hdirectory⟩ := h.directory_eq
  have hformat : w.perform (format registry settings.outputFormat)
      = (.ok (p.label, p.extension), w) := by
    rw [h.format, format, h.extension]
    rfl
  have hmade : w.perform (ask p.directory (Host.makeDirectory p.directory))
      = (.ok (), { w with disk := p.start w.disk }) := by
    refine Desk.perform_ask h.nameable ?_
    rw [Desk.run_makeDirectory, h.made]
    rfl
  have hplan : Plan.mk registry p.label p.extension p.keyLayout settings.encoding p.directory
      settings.errorLogs.isSet settings.verbose.isSet = p := by
    rw [← h.registry_eq, ← h.encoding_eq, ← h.errorLogs_eq, ← h.verbose_eq]
  rw [prepare, Desk.perform_bind_ok hformat]
  rcases h.keyLayout with ⟨hunset, hnone⟩ | ⟨file, t, hset, hfile, ht, hsome⟩
  · rw [hnone] at hplan
    simp only [hunset, Bool.false_eq_true, if_false, pure_bind]
    rw [Desk.perform_bind_ok (Desk.perform_textSetting hdir), ← hdirectory,
      Desk.perform_bind_ok hmade, hplan]
    rfl
  · rw [hsome] at hplan
    simp only [hset, if_true, pure_bind]
    rw [Desk.perform_bind_ok (Desk.perform_textSetting hfile),
      Desk.perform_bind_ok (Desk.perform_needText h.known ht),
      Desk.perform_bind_ok (Desk.perform_textSetting hdir), ← hdirectory,
      Desk.perform_bind_ok hmade, hplan]
    rfl

/-! ## 2. Turns -/

/-- The disk after the turns of files. -/
def Plan.after (p : Plan) (d : Disk) (inputs : List Path) : Disk := inputs.foldl p.turn d

theorem after_append (p : Plan) (d : Disk) (before rest : List Path) :
    p.after d (before ++ rest) = p.after (p.after d before) rest :=
  List.foldl_append ..

/-- How many files fail at their turns. -/
def Plan.failures (p : Plan) (d : Disk) : List Path → Nat
  | [] => 0
  | input :: rest => (if p.fails d input then 1 else 0) + p.failures (p.turn d input) rest

theorem failures_append (p : Plan) (d : Disk) (before rest : List Path) :
    p.failures d (before ++ rest) = p.failures d before + p.failures (p.after d before) rest := by
  induction before generalizing d with
  | nil => exact (Nat.zero_add _).symm
  | cons first before ih =>
    rw [List.cons_append, Plan.failures, Plan.failures, ih, Nat.add_assoc]
    rfl

/-- Something holds of every file and the disk at its turn. -/
def Plan.AtTurns (p : Plan) (holds : Disk → Path → Prop) (d : Disk) (inputs : List Path) : Prop :=
  ∀ before input rest, inputs = before ++ input :: rest → holds (p.after d before) input

section AtTurns

variable {holds : Disk → Path → Prop}

theorem atTurns_nil : p.AtTurns holds d [] := by
  intro before input rest hsplit
  cases before <;> cases hsplit

theorem atTurns_cons :
    p.AtTurns holds d (input :: inputs)
      ↔ holds d input ∧ p.AtTurns holds (p.turn d input) inputs := by
  constructor
  · intro h
    refine ⟨h [] input inputs rfl, fun before next rest hsplit => ?_⟩
    exact h (input :: before) next rest (by rw [hsplit, List.cons_append])
  · rintro ⟨hfirst, hothers⟩ before next rest hsplit
    cases before with
    | nil =>
      cases hsplit
      exact hfirst
    | cons first before =>
      cases hsplit
      exact hothers before next rest rfl

end AtTurns

/-- The sheet and the failure of every file can be written. -/
def Plan.RoomFor (p : Plan) (d : Disk) (inputs : List Path) : Prop :=
  ∀ input ∈ inputs, d.Writable (p.target input) ∧ d.Writable (p.errorLog input)

theorem path_of_product? {path : Path} {t : Text} (h : p.product? d input = some (path, t)) :
    path = p.target input ∨ path = p.errorLog input := by
  rw [Plan.product?] at h
  split at h
  · cases h
    exact .inl rfl
  · split at h
    · cases h
      exact .inr rfl
    · cases h
  · cases h

/-- A turn leaves the directories as they are. -/
theorem sameDirectories_turn (h : p.HasRoom d input) : d.SameDirectories (p.turn d input) := by
  rw [Plan.turn]
  split
  case h_1 path t hproduct => exact Disk.sameDirectories_store (h path t hproduct) t
  case h_2 => exact .refl d

/-- Where files can be written once, they can at every turn. -/
theorem Plan.RoomFor.atTurns (h : p.RoomFor d inputs) : p.AtTurns p.HasRoom d inputs := by
  induction inputs generalizing d with
  | nil => exact atTurns_nil
  | cons input inputs ih =>
    have hfirst : p.HasRoom d input := by
      intro path t hproduct
      obtain ⟨htarget, hlog⟩ := h input (by simp)
      rcases path_of_product? hproduct with rfl | rfl
      · exact htarget
      · exact hlog
    have hsame := sameDirectories_turn hfirst
    refine atTurns_cons.mpr ⟨hfirst, ih fun next hnext => ?_⟩
    rw [hsame.writable, hsame.writable]
    exact h next (by simp [hnext])

/-- **Files whose turns come to their ends have them one after the other.** -/
theorem perform_processFiles (h : NamesEncoding p.encoding e)
    (hroom : p.AtTurns p.HasRoom w.disk inputs)
    (hsurvive : p.AtTurns (p.Survives e) w.disk inputs) :
    ∃ log, w.perform (processFiles p inputs)
      = (.ok (p.failures w.disk inputs), { w with disk := p.after w.disk inputs, log }) := by
  induction inputs generalizing w with
  | nil => exact ⟨w.log, rfl⟩
  | cons input inputs ih =>
    obtain ⟨hfirstRoom, hroom⟩ := atTurns_cons.mp hroom
    obtain ⟨hfirst, hothers⟩ := atTurns_cons.mp hsurvive
    obtain ⟨log, hturn⟩ := perform_processFile h hfirst hfirstRoom
    obtain ⟨log', hrest⟩ := ih (w := { w with disk := p.turn w.disk input, log }) hroom hothers
    refine ⟨log', ?_⟩
    rw [processFiles, Desk.perform_bind_ok hturn, Desk.perform_bind_ok hrest]
    rfl

/-- **A turn that does not come to its end ends the batch.** -/
theorem perform_processFiles_of_not_survive (h : NamesEncoding p.encoding e)
    (hroom : p.AtTurns p.HasRoom w.disk inputs)
    (hsurvive : ¬p.AtTurns (p.Survives e) w.disk inputs) :
    ∃ fault w', w.perform (processFiles p inputs) = (.error (.fault fault), w') := by
  induction inputs generalizing w with
  | nil => exact absurd atTurns_nil hsurvive
  | cons input inputs ih =>
    obtain ⟨hfirstRoom, hroom⟩ := atTurns_cons.mp hroom
    rw [processFiles]
    by_cases hfirst : p.Survives e w.disk input
    · have hothers : ¬p.AtTurns (p.Survives e) (p.turn w.disk input) inputs :=
        fun hothers => hsurvive (atTurns_cons.mpr ⟨hfirst, hothers⟩)
      obtain ⟨log, hturn⟩ := perform_processFile h hfirst hfirstRoom
      obtain ⟨fault, w', hrest⟩ :=
        ih (w := { w with disk := p.turn w.disk input, log }) hroom hothers
      rw [Desk.perform_bind_ok hturn]
      exact ⟨fault, w', Desk.perform_bind_error hrest _⟩
    · obtain ⟨fault, w', hturn⟩ := perform_processFile_of_not_survives h hfirst hfirstRoom
      exact ⟨fault, w', Desk.perform_bind_error hturn _⟩

/-- **What stops a turn ends the batch**: the files before it had their turns, and those behind it
have none. -/
theorem perform_processFiles_append_of_stop {before rest : List Path} {failed : Nat}
    {w' w'' : Desk} {stop : Stop} (hbefore : w.perform (processFiles p before) = (.ok failed, w'))
    (hstop : w'.perform (processFile p input) = (.error stop, w'')) :
    w.perform (processFiles p (before ++ input :: rest)) = (.error stop, w'') := by
  induction before generalizing w failed with
  | nil =>
    cases hbefore
    exact Desk.perform_bind_error hstop _
  | cons first before ih =>
    -- The files before came to their ends, so the first one did, and then the others.
    obtain ⟨failed, next, hfirst, hbefore⟩ := Desk.of_perform_bind hbefore
    obtain ⟨others, last, hothers, hreturn⟩ := Desk.of_perform_bind hbefore
    cases hreturn
    rw [List.cons_append, processFiles, Desk.perform_bind_ok hfirst]
    exact Desk.perform_bind_error (ih hothers) _

/-- The sheet that a file comes to at its turn is written. -/
theorem read_turn {sheet : Text} (hroom : p.HasRoom d input) (hsurvives : p.Survives e d input)
    (houtcome : p.outcome d input = .ok (.ok sheet)) :
    ∃ octets, Utf8.encode sheet = some octets
      ∧ (p.turn d input).read (p.target input) = .ok octets := by
  have hproduct := product?_sheet houtcome
  obtain ⟨octets, hencode⟩ := hsurvives.encodable _ _ hproduct
  obtain ⟨-, q, hplace, hfree⟩ := hroom _ _ hproduct
  refine ⟨octets, hencode, ?_⟩
  rw [Plan.turn, hproduct]
  show (d.store (p.target input) sheet).read (p.target input) = .ok octets
  rw [Disk.store_eq hplace hfree hencode, Disk.read_put hplace hfree]

/-! ## 3. Batches -/

theorem perform_run (hplan : p.IsFor e registry settings w.disk)
    (hroom : p.AtTurns p.HasRoom (p.start w.disk) inputs)
    (hsurvive : p.AtTurns (p.Survives e) (p.start w.disk) inputs) :
    ∃ log, w.perform (run registry settings inputs)
      = (.ok (p.failures (p.start w.disk) inputs),
        { w with disk := p.after (p.start w.disk) inputs, log }) := by
  have hknown : NamesEncoding p.encoding e := hplan.encoding_eq ▸ hplan.known
  obtain ⟨log, hturns⟩ := perform_processFiles (w := { w with disk := p.start w.disk }) hknown hroom
    hsurvive
  rw [run, Desk.perform_bind_ok (perform_prepare hplan), Desk.perform_bind_ok hturns]
  exact ⟨_, rfl⟩

theorem perform_run_of_not_survive (hplan : p.IsFor e registry settings w.disk)
    (hroom : p.AtTurns p.HasRoom (p.start w.disk) inputs)
    (hsurvive : ¬p.AtTurns (p.Survives e) (p.start w.disk) inputs) :
    ∃ fault w', w.perform (run registry settings inputs) = (.error (.fault fault), w') := by
  have hknown : NamesEncoding p.encoding e := hplan.encoding_eq ▸ hplan.known
  obtain ⟨fault, w', hturns⟩ := perform_processFiles_of_not_survive
    (w := { w with disk := p.start w.disk }) hknown hroom hsurvive
  rw [run, Desk.perform_bind_ok (perform_prepare hplan)]
  exact ⟨fault, w', Desk.perform_bind_error hturns _⟩

/-- **A batch runs to its end exactly when every turn does**, and then every file had its turn:
those that failed are counted, and the sheets of the others were written. A turn does not come to
its end where the file has not the form of its encoding or what is to be written of it has no
octets; that ends the batch, by a fault that nothing answers for. -/
theorem returns_iff_survive (hplan : p.IsFor e registry settings w.disk)
    (hroom : p.RoomFor (p.start w.disk) inputs) :
    ((∃ failed, (w.perform (run registry settings inputs)).1 = .ok failed)
        ↔ p.AtTurns (p.Survives e) (p.start w.disk) inputs)
      ∧ (∀ stop, (w.perform (run registry settings inputs)).1 = .error stop →
        ∃ fault, stop = .fault fault)
      ∧ (∀ failed, (w.perform (run registry settings inputs)).1 = .ok failed →
        failed = p.failures (p.start w.disk) inputs
        ∧ (w.perform (run registry settings inputs)).2.disk = p.after (p.start w.disk) inputs
        ∧ ∀ before input rest, inputs = before ++ input :: rest → ∀ sheet,
          p.outcome (p.after (p.start w.disk) before) input = .ok (.ok sheet) →
          ∃ octets, Utf8.encode sheet = some octets
            ∧ (p.after (p.start w.disk) (before ++ [input])).read (p.target input)
              = .ok octets) := by
  by_cases hsurvive : p.AtTurns (p.Survives e) (p.start w.disk) inputs
  · obtain ⟨log, hrun⟩ := perform_run hplan hroom.atTurns hsurvive
    rw [hrun]
    refine ⟨iff_of_true ⟨_, rfl⟩ hsurvive, nofun, ?_⟩
    rintro failed ⟨⟩
    refine ⟨rfl, rfl, fun before input rest hsplit sheet houtcome => ?_⟩
    rw [after_append]
    exact read_turn (hroom.atTurns before input rest hsplit) (hsurvive before input rest hsplit)
      houtcome
  · obtain ⟨fault, w', hrun⟩ := perform_run_of_not_survive hplan hroom.atTurns hsurvive
    rw [hrun]
    refine ⟨iff_of_false nofun hsurvive, ?_, nofun⟩
    rintro stop ⟨⟩
    exact ⟨fault, rfl⟩

/-! ### Runs -/

/-- A sheet without notes, under a title that is written as JSON has it. -/
def titled (title : Text) : Text :=
  ("[\x7b\"name\":\"" : Text) ++ title
    ++ ("\",\"pitchLevel\":0,\"bpm\":60,\"songNotes\":[]\x7d]" : Text)

/-- A desk with sheets in the working directory. -/
def deskOf (sheets : List (Text × Text)) : Desk :=
  { disk := ⟨sheets.map fun (name, t) =>
      (Path.ofText name, .file ((Utf8.encode t).getD []))⟩ }

/-- Settings that name an encoding and nothing else. -/
def utf8Settings : Settings := { encoding := ("utf8" : Text) }

/-- The plan for these settings. -/
def utf8Plan : Plan where
  registry := .default
  label := "sky-studio-json"
  extension := ".json"
  keyLayout := none
  encoding := ("utf8" : Text)
  directory := Path.ofText "output"
  errorLogs := true
  verbose := false

theorem isFor_utf8Settings (h : (d.makeDirectory utf8Plan.directory).1 = .ok ()) :
    utf8Plan.IsFor .utf8 .default utf8Settings d where
  registry_eq := rfl
  format := rfl
  extension := by rfl
  encoding_eq := rfl
  known := ⟨"utf8", rfl, by decide, by rfl⟩
  keyLayout := .inl ⟨rfl, rfl⟩
  directory_eq := ⟨"output", rfl, rfl⟩
  nameable := by decide
  made := h
  errorLogs_eq := rfl
  verbose_eq := rfl

/-- A file that is not there does not stop the batch: the one behind it has its turn. -/
theorem returns_iff_survive_sample :
    let w := deskOf [("b.txt", titled "b")]
    let inputs := [Path.ofText "a.txt", Path.ofText "b.txt"]
    utf8Plan.IsFor .utf8 .default utf8Settings w.disk
      ∧ utf8Plan.RoomFor (utf8Plan.start w.disk) inputs
      ∧ (w.perform (run .default utf8Settings inputs)).1 = .ok 1 := by
  intro w inputs
  have hplan : utf8Plan.IsFor .utf8 .default utf8Settings w.disk := isFor_utf8Settings (by rfl)
  have hroom : utf8Plan.RoomFor (utf8Plan.start w.disk) inputs := by
    show ∀ input ∈ inputs, _
    decide +kernel
  have hlegible : ∀ (d : Disk), ∀ input ∈ inputs, d.Legible .utf8 input := by
    intro d input hinput
    have hnamed : ∀ input ∈ inputs, input.fault? = none := by decide
    exact ⟨hnamed input hinput, fun octets _ => Encoding.decode_ofDecoder_ne_form _ _ _ octets⟩
  have hfirst : ∀ text ∈ utf8Plan.product? (utf8Plan.start w.disk) (Path.ofText "a.txt"),
      (Utf8.encode text.2).isSome := by
    decide +kernel
  have hsecond : ∀ text ∈ utf8Plan.product? (utf8Plan.turn (utf8Plan.start w.disk)
      (Path.ofText "a.txt")) (Path.ofText "b.txt"), (Utf8.encode text.2).isSome := by
    decide +kernel
  have hsurvive : utf8Plan.AtTurns (utf8Plan.Survives .utf8) (utf8Plan.start w.disk) inputs := by
    refine atTurns_cons.mpr ⟨⟨hlegible _ _ (by simp [inputs]), fun path t hproduct => ?_⟩,
      atTurns_cons.mpr ⟨⟨hlegible _ _ (by simp [inputs]), fun path t hproduct => ?_⟩, atTurns_nil⟩⟩
    · exact Option.isSome_iff_exists.mp (hfirst (path, t) hproduct)
    · exact Option.isSome_iff_exists.mp (hsecond (path, t) hproduct)
  obtain ⟨hreturns, -, hran⟩ := returns_iff_survive hplan hroom
  obtain ⟨failed, hfailed⟩ := hreturns.mpr hsurvive
  have hcount : utf8Plan.failures (utf8Plan.start w.disk) inputs = 1 := by decide +kernel
  refine ⟨hplan, hroom, ?_⟩
  rw [hfailed, (hran failed hfailed).1, hcount]

/-- **One file can stop a batch**: half of a surrogate pair in a title has no octets. -/
theorem not_every_batch_returns : ¬∀ (e : Encoding) (settings : Settings) (p : Plan) (w : Desk)
    (inputs : List Path), p.IsFor e .default settings w.disk →
    p.RoomFor (p.start w.disk) inputs →
    ∃ failed, (w.perform (run .default settings inputs)).1 = .ok failed := by
  intro h
  let w := deskOf [("a.txt", titled "\\ud800"), ("b.txt", titled "b")]
  let inputs := [Path.ofText "a.txt", Path.ofText "b.txt"]
  have hroom : utf8Plan.RoomFor (utf8Plan.start w.disk) inputs := by
    show ∀ input ∈ inputs, _
    decide +kernel
  have hstops : (w.perform (run .default utf8Settings inputs)).1
      = .error (.fault .unencodable) := by
    decide +kernel
  obtain ⟨failed, hreturns⟩ := h .utf8 utf8Settings utf8Plan w inputs
    (isFor_utf8Settings (by rfl)) hroom
  rw [hstops] at hreturns
  cases hreturns

end SongSheet.Batch
