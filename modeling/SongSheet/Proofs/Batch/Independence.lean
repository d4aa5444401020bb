import SongSheet.Command
import SongSheet.Proofs.Batch.Run

/-!
# Batches — files that do not get in each other's way

What a file comes to at its turn may differ from what it comes to by itself: the turns before it may
have written where it is read. That takes a file that lies in the directory of the batch. If there
is none, and what is written goes to paths of its own (`Plan.KeepApart`), then every file comes to
what it comes to by itself (`outcome_storeAll`), and the turns together write what each would write
(`after_eq_storeAll`).

So **the batch handles each file on its own exactly when every path can name something**
(`run_apart`). Nothing answers for a path with a null character: it ends the batch, though what is
no file only fails.
-/

set_option autoImplicit false

namespace SongSheet.Batch

open Command

variable {p : Plan} {e : Encoding} {registry : Registry} {settings : Settings} {d : Disk}
  {w : Desk} {input : Path} {before inputs : List Path}

/-! ## 1. Files apart -/

/-- What is to be written of files, each by itself. -/
def Plan.products (p : Plan) (d : Disk) (inputs : List Path) : List (Path × Text) :=
  inputs.filterMap (p.product? d)

/-- None of the files lies in the directory of the batch, and what is to be written of them can be
written, to a path of its own. -/
structure Plan.KeepApart (p : Plan) (d : Disk) (inputs : List Path) : Prop where
  outside : ∀ input ∈ inputs, ¬d.LiesIn input p.directory
  storable : ∀ text ∈ p.products d inputs, d.Storable text
  distinct : ((p.products d inputs).map (·.1)).Nodup

theorem exists_child {text : Path × Text} (h : text ∈ p.products d inputs) :
    ∃ name, text.1 = p.directory.child name := by
  obtain ⟨input, -, hproduct⟩ := List.mem_filterMap.mp h
  rcases path_of_product? hproduct with hpath | hpath
  · exact ⟨_, hpath⟩
  · exact ⟨_, hpath⟩

theorem products_concat :
    p.products d (before ++ [input]) = p.products d before ++ (p.product? d input).toList := by
  rw [Plan.products, List.filterMap_append]
  cases hproduct : p.product? d input with
  | none => rw [List.filterMap_cons_none hproduct]; rfl
  | some text => rw [List.filterMap_cons_some hproduct]; rfl

theorem Plan.KeepApart.left {rest : List Path} (h : p.KeepApart d (before ++ rest)) :
    p.KeepApart d before := by
  have hsub : (p.products d before).Sublist (p.products d (before ++ rest)) := by
    rw [products, products, List.filterMap_append]
    exact List.sublist_append_left ..
  exact {
    outside := fun input hinput => h.outside input (List.mem_append_left _ hinput)
    storable := fun text htext => h.storable text (hsub.subset htext)
    distinct := h.distinct.sublist (hsub.map _) }

/-- What is written of files goes to the directory of the batch. -/
theorem exists_file {text : Path × Text} (hmem : text ∈ p.products d inputs)
    (h : d.Storable text) :
    ∃ name octets, text.1 = p.directory.child name
      ∧ d.file? text = some ((d.reach p.directory).follow name, octets) := by
  obtain ⟨name, hname⟩ := exists_child hmem
  obtain ⟨q, octets, hfile, hplace, -⟩ := h.file?
  rw [hname] at hplace
  refine ⟨name, octets, hname, ?_⟩
  rw [hfile, Disk.place_child hplace]

/-- **A file outside of the directory comes to the same whatever was written there.** -/
theorem outcome_storeAll (hknown : NamesEncoding p.encoding e)
    (hstorable : ∀ text ∈ p.products d before, d.Storable text)
    (houtside : ¬d.LiesIn input p.directory) :
    p.outcome (d.storeAll (p.products d before)) input = p.outcome d input := by
  obtain ⟨heq, hfree⟩ := Disk.storeAll_eq hstorable
  refine outcome_congr hknown ?_
  rw [heq]
  -- Were the path to end at what was written, it would lie in the directory.
  refine Disk.read_putAll hfree fun hreach => houtside ?_
  obtain ⟨file, hfile, hplace⟩ := List.mem_map.mp hreach
  obtain ⟨text, htext, hsome⟩ := List.mem_filterMap.mp hfile
  obtain ⟨name, octets, -, hthere⟩ := exists_file htext (hstorable text htext)
  have hfollow : file.1 = (d.reach p.directory).follow name := by
    rw [hthere] at hsome
    cases hsome
    rfl
  exact ⟨name, hplace.symm.trans hfollow, hplace ▸ hfree file hfile⟩

/-- **The turns together write what each would write by itself.** -/
theorem after_eq_storeAll (hknown : NamesEncoding p.encoding e) (h : p.KeepApart d inputs) :
    p.after d inputs = d.storeAll (p.products d inputs) := by
  induction inputs using List.reverseRecOn with
  | nil => rfl
  | append_singleton before input ih =>
    -- By induction the turns before have only stored what they would by themselves.
    have houtcome : p.outcome (d.storeAll (p.products d before)) input = p.outcome d input :=
      outcome_storeAll hknown h.left.storable (h.outside input (by simp))
    have hproduct : p.product? (p.after d before) input = p.product? d input := by
      rw [ih h.left, Plan.product?, houtcome, Plan.product?]
    rw [after_append, products_concat, Disk.storeAll, List.foldl_append]
    show p.turn (p.after d before) input = _
    rw [Plan.turn, hproduct, ih h.left]
    cases p.product? d input with
    | none => rfl
    | some text => rfl

/-- **Every file comes to what it comes to by itself.** -/
theorem outcome_after {rest : List Path} (hknown : NamesEncoding p.encoding e)
    (h : p.KeepApart d (before ++ input :: rest)) :
    p.outcome (p.after d before) input = p.outcome d input := by
  rw [after_eq_storeAll hknown h.left]
  exact outcome_storeAll hknown h.left.storable (h.outside input (by simp))

/-- What is written goes to places of its own. -/
theorem nodup_places (h : p.KeepApart d inputs) :
    (((p.products d inputs).filterMap d.file?).map (·.1)).Nodup := by
  have hdistinct := List.pairwise_map.mp h.distinct
  refine List.pairwise_map.mpr (List.pairwise_filterMap.mpr ?_)
  refine hdistinct.imp_of_mem fun {text other} htext hother hne => ?_
  obtain ⟨name, octets, hpath, hfile⟩ := exists_file htext (h.storable text htext)
  obtain ⟨name', octets', hpath', hfile'⟩ := exists_file hother (h.storable other hother)
  -- In one directory a place has one name only.
  intro file hsome file' hsome' heq
  rw [hfile] at hsome
  rw [hfile'] at hsome'
  cases hsome
  cases hsome'
  have hname : name = name' := Path.follow_injective heq
  exact hne (by rw [hpath, hpath', hname])

theorem not_mem_places {place : Path} (hstorable : ∀ text ∈ p.products d inputs, d.Storable text)
    (helsewhere : ∀ text ∈ p.products d inputs, d.place text.1 ≠ .ok place) :
    place ∉ ((p.products d inputs).filterMap d.file?).map (·.1) := by
  intro hmem
  obtain ⟨file, hfile, rfl⟩ := List.mem_map.mp hmem
  obtain ⟨text, htext, hsome⟩ := List.mem_filterMap.mp hfile
  obtain ⟨q, octets, hthere, hq, -⟩ := (hstorable text htext).file?
  rw [hthere] at hsome
  cases hsome
  exact helsewhere text htext hq

/-! ## 2. Turns of files apart -/

theorem product?_after {rest : List Path} (hknown : NamesEncoding p.encoding e)
    (h : p.KeepApart d (before ++ input :: rest)) :
    p.product? (p.after d before) input = p.product? d input := by
  rw [Plan.product?, outcome_after hknown h, Plan.product?]

theorem mem_products {text : Path × Text} (hinput : input ∈ inputs)
    (hproduct : p.product? d input = some text) : text ∈ p.products d inputs :=
  List.mem_filterMap.mpr ⟨input, hinput, hproduct⟩

theorem Plan.KeepApart.atTurns_hasRoom (hknown : NamesEncoding p.encoding e)
    (h : p.KeepApart d inputs) : p.AtTurns p.HasRoom d inputs := by
  intro before input rest hsplit path t hproduct
  subst hsplit
  rw [product?_after hknown h] at hproduct
  have hwritable := (h.storable _ (mem_products (by simp) hproduct)).1
  obtain ⟨heq, hfree⟩ := Disk.storeAll_eq h.left.storable
  rw [after_eq_storeAll hknown h.left, heq, (Disk.sameDirectories_putAll hfree).writable]
  exact hwritable

theorem Plan.KeepApart.atTurns_survives (hknown : NamesEncoding p.encoding e)
    (hform : ∀ octets, e.decode octets ≠ .error .form)
    (hnamed : ∀ input ∈ inputs, input.fault? = none) (h : p.KeepApart d inputs) :
    p.AtTurns (p.Survives e) d inputs := by
  intro before input rest hsplit
  subst hsplit
  refine ⟨⟨hnamed input (by simp), fun octets _ => hform octets⟩, fun path t hproduct => ?_⟩
  rw [product?_after hknown h] at hproduct
  exact (h.storable _ (mem_products (by simp) hproduct)).2

theorem failures_eq_countP (hknown : NamesEncoding p.encoding e) (h : p.KeepApart d inputs) :
    p.failures d inputs = inputs.countP (p.fails d) := by
  induction inputs using List.reverseRecOn with
  | nil => rfl
  | append_singleton before input ih =>
    have hfails : p.fails (p.after d before) input = p.fails d input := by
      rw [Plan.fails, outcome_after hknown h, Plan.fails]
    rw [failures_append, ih h.left, List.countP_append, List.countP_singleton, ← hfails]
    rfl

/-! ## 3. The command -/

/-- A request that comes to a code ends the program with it. -/
theorem run_request {arguments : List Text} {verbose : Bool} {request : Request} {code : Nat}
    {w' : Desk} (hread : Invocation.read arguments = .ok ⟨verbose, some request⟩)
    (hrequest : w.perform (runRequest verbose request) = (.ok code, w')) :
    (Command.run arguments : StateM Desk Outcome).run w = (.finished code, w') := by
  rw [Desk.perform] at hrequest
  rw [Command.run, hread]
  dsimp only
  rw [StateT.run_bind, hrequest]
  rfl

/-- Converting comes to code one where files failed. -/
theorem perform_runConvert {verbose : Bool} {r : ConvertRequest} {file : Option Text} {failed : Nat}
    {w' : Desk} (hfile : w.perform (settingsText r.settingsFile) = (.ok file, w))
    (hload : Settings.load file (r.overrides verbose) = .ok settings)
    (hrun : w.perform (run .default settings (r.inputs.map Path.ofText)) = (.ok failed, w')) :
    w.perform (runConvert verbose r) = (.ok (if failed = 0 then 0 else 1), w') := by
  rw [runConvert, Desk.perform_bind_ok hfile, hload]
  dsimp only
  rw [Desk.perform_bind_ok hrun]
  rfl

/-! ## 4. The batch -/

section Runs

variable (hplan : p.IsFor e registry settings w.disk)
  (hform : ∀ octets, e.decode octets ≠ .error .form)

include hplan hform

/-- The turns of files whose paths name something come to their ends. -/
theorem perform_turns_apart (hnamed : ∀ input ∈ inputs, input.fault? = none)
    (hapart : p.KeepApart (p.start w.disk) inputs) :
    ∃ log, ({ w with disk := p.start w.disk } : Desk).perform (processFiles p inputs)
      = (.ok (inputs.countP (p.fails (p.start w.disk))),
        { w with
          disk := (p.start w.disk).storeAll (p.products (p.start w.disk) inputs)
          log }) := by
  have hknown : NamesEncoding p.encoding e := hplan.encoding_eq ▸ hplan.known
  obtain ⟨log, hturns⟩ := perform_processFiles (w := { w with disk := p.start w.disk }) hknown
    (hapart.atTurns_hasRoom hknown) (hapart.atTurns_survives hknown hform hnamed)
  rw [failures_eq_countP hknown hapart, after_eq_storeAll hknown hapart] at hturns
  exact ⟨log, hturns⟩

theorem perform_run_apart (hnamed : ∀ input ∈ inputs, input.fault? = none)
    (hapart : p.KeepApart (p.start w.disk) inputs) :
    ∃ log, w.perform (run registry settings inputs)
      = (.ok (inputs.countP (p.fails (p.start w.disk))),
        { w with
          disk := (p.start w.disk).storeAll (p.products (p.start w.disk) inputs)
          log }) := by
  obtain ⟨log, hturns⟩ := perform_turns_apart hplan hform hnamed hapart
  rw [run, Desk.perform_bind_ok (perform_prepare hplan), Desk.perform_bind_ok hturns]
  exact ⟨_, rfl⟩

/-- The first path that names nothing ends the batch. The files before it have had their turns. -/
theorem perform_run_of_fault {fault : Path.Fault}
    (hnamed : ∀ earlier ∈ before, earlier.fault? = none) (hfault : input.fault? = some fault)
    (hapart : p.KeepApart (p.start w.disk) before) (rest : List Path) :
    ∃ log, w.perform (run registry settings (before ++ input :: rest))
      = (.error fault.stop,
        { w with
          disk := (p.start w.disk).storeAll (p.products (p.start w.disk) before)
          log }) := by
  have hknown : NamesEncoding p.encoding e := hplan.encoding_eq ▸ hplan.known
  obtain ⟨log, hturns⟩ := perform_turns_apart hplan hform hnamed hapart
  obtain ⟨log', hstop⟩ := perform_processFile_of_fault hknown hfault
  refine ⟨log', ?_⟩
  rw [run, Desk.perform_bind_ok (perform_prepare hplan)]
  exact Desk.perform_bind_error (perform_processFiles_append_of_stop hturns hstop) _

end Runs

/-- A batch handles each file on its own. It comes to the number of files that fail by themselves;
the sheet of every other file is written, and, where failures are to be, the words for each failure;
no other file is new or changed. A command for such a batch ends with code one exactly when a file
failed. -/
structure Plan.HandlesApart (p : Plan) (registry : Registry) (settings : Settings) (w : Desk)
    (inputs : List Path) : Prop where
  count : (w.perform (run registry settings inputs)).1
    = .ok (inputs.countP (p.fails (p.start w.disk)))
  sheets : ∀ input ∈ inputs, ∀ sheet, p.outcome (p.start w.disk) input = .ok (.ok sheet) →
    ∃ octets, Utf8.encode sheet = some octets
      ∧ (w.perform (run registry settings inputs)).2.disk.read (p.target input) = .ok octets
  failures : ∀ input ∈ inputs, ∀ message,
    p.outcome (p.start w.disk) input = .ok (.error message) → settings.errorLogs.isSet →
    ∃ octets, Utf8.encode message = some octets
      ∧ (w.perform (run registry settings inputs)).2.disk.read (p.errorLog input) = .ok octets
  others : ∀ place octets,
    (∀ text ∈ p.products (p.start w.disk) inputs, (p.start w.disk).place text.1 ≠ .ok place) →
    ((w.perform (run registry settings inputs)).2.disk.at? place = some (.file octets)
      ↔ w.disk.at? place = some (.file octets))
  code : ∀ arguments verbose r file, Invocation.read arguments = .ok ⟨verbose, some (.convert r)⟩ →
    r.inputs.map Path.ofText = inputs → registry = .default →
    w.perform (settingsText r.settingsFile) = (.ok file, w) →
    Settings.load file (r.overrides verbose) = .ok settings →
    ((Command.run arguments : StateM Desk Outcome).run w).1
      = .finished (if inputs.countP (p.fails (p.start w.disk)) = 0 then 0 else 1)

theorem handlesApart (hplan : p.IsFor e registry settings w.disk)
    (hform : ∀ octets, e.decode octets ≠ .error .form)
    (hnamed : ∀ input ∈ inputs, input.fault? = none)
    (hapart : p.KeepApart (p.start w.disk) inputs) : p.HandlesApart registry settings w inputs := by
  obtain ⟨log, hrun⟩ := perform_run_apart hplan hform hnamed hapart
  have hstored : ∀ text ∈ p.products (p.start w.disk) inputs, ∃ octets,
      Utf8.encode text.2 = some octets
        ∧ (w.perform (run registry settings inputs)).2.disk.read text.1 = .ok octets := by
    rw [hrun]
    exact fun text htext => Disk.read_storeAll hapart.storable htext (nodup_places hapart)
  refine { count := congrArg Prod.fst hrun, sheets := ?_, failures := ?_, others := ?_, code := ?_ }
  · intro input hinput sheet houtcome
    exact hstored _ (mem_products hinput (product?_sheet houtcome))
  · intro input hinput message houtcome hlogs
    have hproduct := product?_message houtcome
    rw [hplan.errorLogs_eq, if_pos hlogs] at hproduct
    exact hstored _ (mem_products hinput hproduct)
  · intro place octets helsewhere
    obtain ⟨heq, -⟩ := Disk.storeAll_eq hapart.storable
    rw [hrun, heq, Disk.at?_putAll_of_not_mem (not_mem_places hapart.storable helsewhere)]
    -- What is left is what making the directory did.
    exact (Disk.onlyMakes_makeDirectory _ _).file
  · intro arguments verbose r file hread hinputs hregistry hfile hload
    subst hregistry hinputs
    exact congrArg Prod.fst (run_request hread (perform_runConvert hfile hload hrun))

theorem exists_first_fault (h : ¬∀ input ∈ inputs, input.fault? = none) :
    ∃ before input rest fault, inputs = before ++ input :: rest
      ∧ (∀ earlier ∈ before, earlier.fault? = none) ∧ input.fault? = some fault := by
  cases hfind : inputs.find? (·.fault?.isSome) with
  | none =>
    refine absurd (fun input hinput => ?_) h
    simpa using List.find?_eq_none.mp hfind input hinput
  | some input =>
    obtain ⟨hsome, before, rest, rfl, hbefore⟩ := List.find?_eq_some_iff_append.mp hfind
    obtain ⟨fault, hfault⟩ := Option.isSome_iff_exists.mp hsome
    refine ⟨before, input, rest, fault, rfl, fun earlier hearlier => ?_, hfault⟩
    simpa using hbefore earlier hearlier

/-- **A batch handles each file on its own exactly when every path can name something**, if no file
lies in the directory of the batch and what is written goes to paths of its own. The files need not
be there. A path with a null character, or with a surrogate that stands for no octet, ends the batch
with a fault: the files before the first such path are handled as if they were the batch, and those
behind it are not looked at. -/
theorem run_apart (hplan : p.IsFor e registry settings w.disk)
    (hform : ∀ octets, e.decode octets ≠ .error .form)
    (hapart : p.KeepApart (p.start w.disk) inputs) :
    (p.HandlesApart registry settings w inputs ↔ ∀ input ∈ inputs, input.fault? = none)
      ∧ ∀ before input rest fault, inputs = before ++ input :: rest →
        (∀ earlier ∈ before, earlier.fault? = none) → input.fault? = some fault →
        (w.perform (run registry settings inputs)).1 = .error fault.stop
          ∧ p.HandlesApart registry settings w before
          ∧ (w.perform (run registry settings inputs)).2.disk
            = (w.perform (run registry settings before)).2.disk := by
  constructor
  · refine ⟨fun h => ?_, fun hnamed => handlesApart hplan hform hnamed hapart⟩
    by_contra hfaulty
    obtain ⟨before, input, rest, fault, rfl, hnamed, hfault⟩ := exists_first_fault hfaulty
    obtain ⟨log, hstop⟩ := perform_run_of_fault hplan hform hnamed hfault hapart.left rest
    -- The batch ends with a fault, so it comes to no number.
    have hcount := h.count
    rw [hstop] at hcount
    cases hcount
  · rintro before input rest fault rfl hnamed hfault
    obtain ⟨log, hstop⟩ := perform_run_of_fault hplan hform hnamed hfault hapart.left rest
    obtain ⟨log', hrun⟩ := perform_run_apart hplan hform hnamed hapart.left
    rw [hstop, hrun]
    exact ⟨rfl, handlesApart hplan hform hnamed hapart.left, rfl⟩

/-- What the sheet of that title comes to. -/
def titledB : Text :=
  ("[\x7b\"name\":\"b\",\"author\":\"\",\"transcribedBy\":\"\",\"bitsPerPage\":16," : Text)
    ++ ("\"pitchLevel\":0,\"bpm\":60,\"songNotes\":[]\x7d]" : Text)

/-- A request to convert a file that is not there and that sheet. -/
def request : ConvertRequest := { inputs := ["a.txt", "b.txt"], encoding := ("utf8" : Text) }

/-- A path that names nothing, beside the directory of the batch. -/
def nameless : Path := Path.ofText "x\x00y/a.txt"

/-- Files that end beside the directory keep apart if what is to be written of them does. -/
theorem Plan.KeepApart.of_beside (hparts : (d.reach p.directory).parts ≠ [])
    (hlength : ∀ input ∈ inputs,
      (d.reach input).parts.length = (d.reach p.directory).parts.length)
    (hstorable : ∀ text ∈ p.products d inputs, d.Writable text.1 ∧ (Utf8.encode text.2).isSome)
    (hdistinct : ((p.products d inputs).map (·.1)).Nodup) : p.KeepApart d inputs where
  outside := fun input hinput => Disk.not_liesIn hparts (hlength input hinput)
  storable := fun text htext =>
    ⟨(hstorable text htext).1, Option.isSome_iff_exists.mp (hstorable text htext).2⟩
  distinct := hdistinct

/-- A file that is not there and a sheet, with the command that converts them; and the same with a
path behind them that names nothing. -/
theorem run_apart_sample :
    let w := deskOf [("b.txt", titled "b")]
    let inputs := [Path.ofText "a.txt", Path.ofText "b.txt"]
    utf8Plan.IsFor .utf8 .default utf8Settings w.disk
      ∧ utf8Plan.KeepApart (utf8Plan.start w.disk) (inputs ++ [nameless])
      ∧ (w.perform (run .default utf8Settings inputs)).1 = .ok 1
      ∧ (∃ octets, Utf8.encode titledB = some octets
        ∧ (w.perform (run .default utf8Settings inputs)).2.disk.read (Path.ofText "output/b.json")
          = .ok octets)
      ∧ ((Command.run ["convert", "a.txt", "b.txt", "--encoding", "utf8"]
        : StateM Desk Outcome).run w).1 = .finished 1
      ∧ (w.perform (run .default utf8Settings (inputs ++ [nameless]))).1
        = .error (.fault .nullCharacter) := by
  intro w inputs
  have hplan : utf8Plan.IsFor .utf8 .default utf8Settings w.disk := isFor_utf8Settings (by rfl)
  have hform : ∀ octets, Encoding.utf8.decode octets ≠ .error .form :=
    fun octets => Encoding.decode_ofDecoder_ne_form _ _ _ octets
  have hnamed : ∀ input ∈ inputs, input.fault? = none := by decide
  have hapart : utf8Plan.KeepApart (utf8Plan.start w.disk) (inputs ++ [nameless]) :=
    .of_beside (by decide +kernel) (by decide +kernel) (by decide +kernel) (by decide +kernel)
  obtain ⟨-, hstops⟩ := run_apart hplan hform hapart
  obtain ⟨hstop, hhandles, -⟩ := hstops inputs nameless [] .nullCharacter rfl hnamed (by decide)
  have hcount := hhandles.count
  have hone : inputs.countP (utf8Plan.fails (utf8Plan.start w.disk)) = 1 := by decide +kernel
  rw [hone] at hcount
  have hsheet : utf8Plan.outcome (utf8Plan.start w.disk) (Path.ofText "b.txt")
      = .ok (.ok titledB) := by
    decide +kernel
  have hread := hhandles.sheets _ (by simp [inputs]) _ hsheet
  have htarget : utf8Plan.target (Path.ofText "b.txt") = Path.ofText "output/b.json" := by
    decide +kernel
  rw [htarget] at hread
  have harguments : Invocation.read ["convert", "a.txt", "b.txt", "--encoding", "utf8"]
      = .ok ⟨false, some (.convert request)⟩ := by
    rfl
  have hload : Settings.load none (request.overrides false) = .ok utf8Settings := by rfl
  have hcode := hhandles.code _ false request none harguments rfl rfl rfl hload
  rw [hone] at hcode
  exact ⟨hplan, hapart, hcount, hread, hcode, hstop⟩

/-- **A path that names nothing stops a batch**, and the sheet behind it is not converted. -/
theorem not_every_batch_apart : ¬∀ (e : Encoding) (settings : Settings) (p : Plan) (w : Desk)
    (inputs : List Path), p.IsFor e .default settings w.disk →
    (∀ octets, e.decode octets ≠ .error .form) → p.KeepApart (p.start w.disk) inputs →
    p.HandlesApart .default settings w inputs := by
  intro h
  let w := deskOf [("b.txt", titled "b")]
  let inputs := [nameless, Path.ofText "b.txt"]
  have hapart : utf8Plan.KeepApart (utf8Plan.start w.disk) inputs :=
    .of_beside (by decide +kernel) (by decide +kernel) (by decide +kernel) (by decide +kernel)
  have hstops : (w.perform (run .default utf8Settings inputs)).1
      = .error (.fault .nullCharacter) := by
    decide +kernel
  have hhandles := h .utf8 utf8Settings utf8Plan w inputs (isFor_utf8Settings (by rfl))
    (fun octets => Encoding.decode_ofDecoder_ne_form _ _ _ octets) hapart
  have hcount := hhandles.count
  rw [hstops] at hcount
  cases hcount

end SongSheet.Batch
