import SongSheet.Proofs.Batch.Run
import SongSheet.Proofs.Encoding.Utf8

/-!
# Batches — sheets that go to one file

A sheet is named after the stem of its file, so files of one stem, of different extensions or from
different directories, give their sheets one name. A batch writes them all, and each counts as
converted. What a path has at the end is the text that went there last (`holds_of_last`). A sheet
shares its path with the sheets of files of its stem and with nothing else
(`target_eq_iff`, `target_ne_errorLog`), so **every sheet of a batch is there at the end exactly
when files of one stem came to one sheet** (`sheets_held_iff`).
-/

set_option autoImplicit false

namespace SongSheet

/-- A path has a text on a disk. -/
def Disk.Holds (d : Disk) (path : Path) (t : Text) : Prop :=
  ∃ octets, Utf8.encode t = some octets ∧ d.read path = .ok octets

/-- A path has one text. -/
theorem Disk.Holds.unique {d : Disk} {path : Path} {t t' : Text} (h : d.Holds path t)
    (h' : d.Holds path t') : t = t' := by
  obtain ⟨octets, hencode, hread⟩ := h
  obtain ⟨octets', hencode', hread'⟩ := h'
  cases hread.symm.trans hread'
  exact Utf8.encode_injective hencode hencode'

/-- **Of texts that were written one after the other, a path has the last that went there.** -/
theorem Disk.holds_of_last {d : Disk} {before after : List (Path × Text)} {text : Path × Text}
    (h : ∀ other ∈ before ++ text :: after, d.Storable other)
    (hlast : ∀ other ∈ after, d.place other.1 ≠ d.place text.1) :
    (d.storeAll (before ++ text :: after)).Holds text.1 text.2 := by
  obtain ⟨heq, hfree⟩ := storeAll_eq h
  obtain ⟨q, octets, hfile, hplace, hfreePlace, hencode⟩ := (h text (by simp)).file?
  rw [List.filterMap_append, List.filterMap_cons_some hfile] at heq hfree
  have hagain := (sameDirectories_putAll hfree).place.mpr hplace
  -- The files put behind that of the text are at other places.
  have hnotMem : q ∉ (after.filterMap d.file?).map (·.1) := by
    intro hmem
    obtain ⟨file, hfileMem, rfl⟩ := List.mem_map.mp hmem
    obtain ⟨other, hother, hsome⟩ := List.mem_filterMap.mp hfileMem
    obtain ⟨r, octets', hthere, hr, -⟩ := (h other (by simp [hother])).file?
    cases hthere.symm.trans hsome
    exact hlast other hother (hr.trans hplace.symm)
  have hfreeThere : (d.putAll (before.filterMap d.file?)).at? q ≠ some .directory := by
    rw [ne_eq, sameDirectories_putAll fun file hmem => hfree file (List.mem_append_left _ hmem)]
    exact hfreePlace
  have hat : (d.putAll (before.filterMap d.file? ++ (q, octets) :: after.filterMap d.file?)).at? q
      = some (.file octets) := by
    rw [putAll, List.foldl_append, List.foldl_cons]
    exact (at?_putAll_of_not_mem hnotMem).trans (at?_put_self hfreeThere _)
  refine ⟨octets, hencode, ?_⟩
  rw [heq, read, hagain, ok_bind, hat]

namespace Batch

open Command

variable {p : Plan} {d : Disk} {w w' : Desk} {registry : Registry} {settings : Settings}
  {inputs : List Path} {input : Path} {failed : Nat}

/-! ## 1. What a batch writes -/

/-- What files come to, each at its turn. -/
def Plan.results (p : Plan) (d : Disk) : List Path → List (Path × Except Stop (Except Text Text))
  | [] => []
  | input :: rest => (input, p.outcome d input) :: p.results (p.turn d input) rest

/-- The sheet that a file came to. -/
def sheetOf : Path × Except Stop (Except Text Text) → Option (Path × Text)
  | (input, .ok (.ok sheet)) => some (input, sheet)
  | _ => none

/-- What is written of a file by what it came to. -/
def Plan.textOf (p : Plan) : Path × Except Stop (Except Text Text) → Option (Path × Text)
  | (input, .ok (.ok sheet)) => some (p.target input, sheet)
  | (input, .ok (.error message)) => if p.errorLogs then some (p.errorLog input, message) else none
  | (_, .error _) => none

/-- The sheets that files come to, each with its file. -/
def Plan.sheets (p : Plan) (d : Disk) (inputs : List Path) : List (Path × Text) :=
  (p.results d inputs).filterMap sheetOf

/-- The texts that are written of files, each with its path. -/
def Plan.texts (p : Plan) (d : Disk) (inputs : List Path) : List (Path × Text) :=
  (p.results d inputs).filterMap p.textOf

theorem product?_eq_textOf : p.product? d input = p.textOf (input, p.outcome d input) := by
  rw [Plan.product?]
  split
  case h_1 hsheet => rw [hsheet, Plan.textOf]
  case h_2 hmessage => rw [hmessage, Plan.textOf]
  case h_3 hstop => rw [hstop, Plan.textOf]

theorem texts_cons {rest : List Path} :
    p.texts d (input :: rest) = (p.product? d input).toList ++ p.texts (p.turn d input) rest := by
  rw [product?_eq_textOf, Plan.texts, Plan.results]
  cases htext : p.textOf (input, p.outcome d input) with
  | none => exact List.filterMap_cons_none htext
  | some text => exact List.filterMap_cons_some htext

/-- The turns write the texts one after the other. -/
theorem after_eq_storeAll_texts : p.after d inputs = d.storeAll (p.texts d inputs) := by
  induction inputs generalizing d with
  | nil => rfl
  | cons input rest ih =>
    have hturn : p.turn d input = d.storeAll (p.product? d input).toList := by
      rw [Plan.turn]
      cases p.product? d input <;> rfl
    have hcons : p.after d (input :: rest) = p.after (p.turn d input) rest := rfl
    rw [hcons, ih, texts_cons, Disk.storeAll, Disk.storeAll, List.foldl_append, hturn,
      Disk.storeAll]

theorem fails_eq_isNone : p.fails d input = (sheetOf (input, p.outcome d input)).isNone := by
  rw [Plan.fails]
  rcases p.outcome d input with stop | message | sheet <;> rfl

/-- A file fails or comes to a sheet. -/
theorem failures_add_length_sheets :
    p.failures d inputs + (p.sheets d inputs).length = inputs.length := by
  induction inputs generalizing d with
  | nil => rfl
  | cons input rest ih =>
    have hrest := ih (d := p.turn d input)
    rw [Plan.sheets] at hrest ⊢
    rw [Plan.failures, fails_eq_isNone, Plan.results, List.length_cons]
    cases hsheet : sheetOf (input, p.outcome d input) with
    | none =>
      rw [List.filterMap_cons_none hsheet, Option.isNone_none, if_pos rfl]
      omega
    | some made =>
      rw [List.filterMap_cons_some hsheet, List.length_cons, Option.isNone_some,
        if_neg Bool.false_ne_true]
      omega

theorem of_sheetOf {result : Path × Except Stop (Except Text Text)} {made : Path × Text}
    (h : sheetOf result = some made) : result = (made.1, .ok (.ok made.2)) := by
  rcases result with ⟨input, stop | message | sheet⟩
  · cases h
  · cases h
  · cases h
    rfl

/-- A sheet is written, and behind it the sheets that are made behind it, and failures. -/
theorem texts_of_sheets {before after : List (Path × Text)} {made : Path × Text}
    (h : p.sheets d inputs = before ++ made :: after) :
    ∃ earlier later, p.texts d inputs = earlier ++ (p.target made.1, made.2) :: later
      ∧ ∀ text ∈ later, (∃ other ∈ after, text.1 = p.target other.1)
        ∨ ∃ other, text.1 = p.errorLog other := by
  obtain ⟨first, rest, hresults, -, hrest⟩ := List.filterMap_eq_append_iff.mp h
  obtain ⟨silent, result, behind, rfl, -, hresult, rfl⟩ := List.filterMap_eq_cons_iff.mp hrest
  cases of_sheetOf hresult
  refine ⟨(first ++ silent).filterMap p.textOf, behind.filterMap p.textOf, ?_, ?_⟩
  · rw [Plan.texts, hresults, ← List.append_assoc, List.filterMap_append]
    rfl
  · intro text htext
    obtain ⟨⟨other, result⟩, hother, hsome⟩ := List.mem_filterMap.mp htext
    rcases result with stop | message | sheet
    · cases hsome
    · refine .inr ⟨other, ?_⟩
      rw [Plan.textOf] at hsome
      split_ifs at hsome
      cases hsome
      rfl
    · refine .inl ⟨(other, sheet), List.mem_filterMap.mpr ⟨_, hother, rfl⟩, ?_⟩
      cases hsome
      rfl

/-! ## 2. Batches that return -/

/-- **Turns that all come to their ends** have written every text, each to a place where it can be
written at the start. -/
theorem of_perform_processFiles (h : w.perform (processFiles p inputs) = (.ok failed, w')) :
    failed = p.failures w.disk inputs ∧ w'.disk = p.after w.disk inputs
      ∧ ∀ text ∈ p.texts w.disk inputs, w.disk.Storable text := by
  induction inputs generalizing w failed with
  | nil =>
    cases h
    exact ⟨rfl, rfl, nofun⟩
  | cons input rest ih =>
    rw [processFiles] at h
    obtain ⟨one, next, hfirst, h⟩ := Desk.of_perform_bind h
    obtain ⟨others, last, hothers, h⟩ := Desk.of_perform_bind h
    cases h
    obtain ⟨hstorable, rfl, hturn⟩ := of_perform_processFile hfirst
    obtain ⟨rfl, hdisk, hlater⟩ := ih hothers
    rw [hturn] at hdisk hlater ⊢
    refine ⟨rfl, hdisk, fun text htext => ?_⟩
    rw [texts_cons] at htext
    rcases List.mem_append.mp htext with htext | htext
    · exact hstorable text (Option.mem_toList.mp htext)
    · -- The turn left the directories, so what can be written behind it could be before.
      have hsame := sameDirectories_turn fun path t hproduct => (hstorable (path, t) hproduct).1
      obtain ⟨hwritable, hencode⟩ := hlater text htext
      exact ⟨hsame.writable.mp hwritable, hencode⟩

theorem of_perform_format {label : Yaml.Value} {name : Text × Text}
    (h : w.perform (format registry label) = (.ok name, w')) :
    registry.extension name.1 = .ok name.2 := by
  unfold format at h
  split at h
  case h_1 label =>
    split at h
    case h_1 extension hextension =>
      cases h
      exact hextension
    case h_2 => cases h
  case h_2 => cases h
  case h_3 => cases h

/-- A plan has the extension that its label has in the registry. -/
theorem extension_of_prepare (h : w.perform (prepare registry settings) = (.ok p, w')) :
    registry.extension p.label = .ok p.extension := by
  rw [prepare] at h
  obtain ⟨⟨label, extension⟩, next, hformat, h⟩ := Desk.of_perform_bind h
  have hrest : ∀ {here : Desk} {keyLayout : Option Text}, here.perform (do
      let directory := Path.ofText (← textSetting settings.outputDir)
      ask directory (Host.makeDirectory directory)
      return Plan.mk registry label extension keyLayout settings.encoding directory
        settings.errorLogs.isSet settings.verbose.isSet) = (.ok p, w') →
      registry.extension p.label = .ok p.extension := by
    intro here keyLayout h
    obtain ⟨directory, next, -, h⟩ := Desk.of_perform_bind h
    obtain ⟨⟨⟩, next, -, h⟩ := Desk.of_perform_bind h
    cases h
    exact of_perform_format hformat
  dsimp only at h
  split at h
  case isTrue =>
    obtain ⟨file, next, -, h⟩ := Desk.of_perform_bind h
    obtain ⟨t, next, -, h⟩ := Desk.of_perform_bind h
    exact hrest h
  case isFalse => exact hrest h

theorem of_perform_run (h : w.perform (run registry settings inputs) = (.ok failed, w')) :
    ∃ p start, w.perform (prepare registry settings) = (.ok p, start)
      ∧ failed = p.failures start.disk inputs ∧ w'.disk = p.after start.disk inputs
      ∧ ∀ text ∈ p.texts start.disk inputs, start.disk.Storable text := by
  rw [run] at h
  obtain ⟨p, start, hprepare, h⟩ := Desk.of_perform_bind h
  obtain ⟨count, next, hturns, h⟩ := Desk.of_perform_bind h
  rw [Desk.perform_bind_ok (Desk.perform_log _ _ _ _)] at h
  cases h
  obtain ⟨hfailed, hdisk, hstorable⟩ := of_perform_processFiles hturns
  exact ⟨p, start, hprepare, hfailed, hdisk, hstorable⟩

/-! ## 3. Names -/

/-- **Sheets go to one path exactly if their files have one stem.** -/
theorem target_eq_iff {other : Path} :
    p.target input = p.target other
      ↔ FileName.stem ".yp.txt" input.name = FileName.stem ".yp.txt" other.name := by
  rw [Plan.target, Plan.target, FileName.converted, FileName.converted]
  exact ⟨fun h => List.append_cancel_right (Path.child_injective h), fun h => by rw [h]⟩

/-- No known format has an extension that ends like that of a log. -/
theorem exists_last_of_extension {label extension : Text}
    (h : Registry.default.extension label = .ok extension) :
    ∃ c, extension.getLast? = some c ∧ c ≠ ('g' : CodePoint) := by
  have hknown : ∀ entry ∈ Registry.default.extensions,
      ∃ c ∈ entry.2.getLast?, c ≠ ('g' : CodePoint) := by
    decide
  rw [Registry.extension] at h
  split at h
  case h_1 found hfound =>
    cases h
    obtain ⟨entry, hfind, rfl⟩ := Option.map_eq_some_iff.mp hfound
    exact hknown entry (List.mem_of_find?_eq_some hfind)
  case h_2 => cases h

/-- A sheet does not go where a failure goes. -/
theorem target_ne_errorLog {other : Path}
    (h : Registry.default.extension p.label = .ok p.extension) :
    p.errorLog other ≠ p.target input := by
  intro heq
  obtain ⟨c, hlast, hne⟩ := exists_last_of_extension h
  have hname := congrArg List.getLast? (Path.child_injective heq)
  rw [FileName.converted, List.getLast?_append, List.getLast?_append,
    List.getLast?_append, hlast] at hname
  exact hne (Option.some.inj hname).symm

/-- In one directory a place has one name only. -/
theorem child_eq_of_place {here q : Path} {name name' : Text}
    (h : d.place (here.child name) = .ok q) (h' : d.place (here.child name') = .ok q) :
    here.child name = here.child name' := by
  have hname := (Disk.place_child h).symm.trans (Disk.place_child h')
  rw [Path.follow_injective hname]

/-! ## 4. What is there at the end -/

/-- **The last sheet of its stem is there at the end.** -/
theorem holds_of_last_sheet {before after : List (Path × Text)} {made : Path × Text}
    (hextension : Registry.default.extension p.label = .ok p.extension)
    (hstorable : ∀ text ∈ p.texts d inputs, d.Storable text)
    (h : p.sheets d inputs = before ++ made :: after)
    (hlast : ∀ other ∈ after,
      FileName.stem ".yp.txt" other.1.name ≠ FileName.stem ".yp.txt" made.1.name) :
    (p.after d inputs).Holds (p.target made.1) made.2 := by
  obtain ⟨earlier, later, htexts, hlater⟩ := texts_of_sheets h
  rw [after_eq_storeAll_texts]
  rw [htexts] at hstorable ⊢
  refine Disk.holds_of_last hstorable fun text htext hplace => ?_
  obtain ⟨q, -, -, hq, -⟩ := (hstorable text (by simp [htext])).file?
  have hthere : d.place (p.target made.1) = .ok q := hplace.symm.trans hq
  rcases hlater text htext with ⟨other, hother, hpath⟩ | ⟨other, hpath⟩
  · rw [hpath] at hq
    exact hlast other hother (target_eq_iff.mp (child_eq_of_place hq hthere))
  · rw [hpath] at hq
    exact target_ne_errorLog hextension (child_eq_of_place hq hthere)

/-- A list with an item that passes a test has a last one. -/
theorem exists_last {α : Type} {xs : List α} {x : α} (test : α → Bool) (hmem : x ∈ xs)
    (hx : test x = true) :
    ∃ before y after, xs = before ++ y :: after ∧ test y = true ∧ ∀ z ∈ after, test z = false := by
  have hfound : (xs.reverse.find? test).isSome :=
    List.find?_isSome.mpr ⟨x, List.mem_reverse.mpr hmem, hx⟩
  obtain ⟨y, hy⟩ := Option.isSome_iff_exists.mp hfound
  obtain ⟨htest, front, back, hsplit, hfront⟩ := List.find?_eq_some_iff_append.mp hy
  refine ⟨back.reverse, y, front.reverse, ?_, htest, fun z hz => ?_⟩
  · rw [← List.reverse_reverse xs, hsplit, List.reverse_append, List.reverse_cons,
      List.append_assoc]
    rfl
  · exact Bool.not_eq_true' _ ▸ hfront z (List.mem_reverse.mp hz)

/-- **A batch that returns has kept the last sheet of every stem**: of the files that it counts as
converted, those that no later one shares its stem with have their sheets at the end. So all of them
have, if and only if files of one stem came to one sheet; otherwise a sheet is lost that was counted
and logged. -/
theorem sheets_held_iff (h : w.perform (run .default settings inputs) = (.ok failed, w')) :
    ∃ p start, w.perform (prepare .default settings) = (.ok p, start)
      ∧ failed + (p.sheets start.disk inputs).length = inputs.length
      ∧ (∀ before made after, p.sheets start.disk inputs = before ++ made :: after →
        (∀ other ∈ after,
          FileName.stem ".yp.txt" other.1.name ≠ FileName.stem ".yp.txt" made.1.name) →
        w'.disk.Holds (p.target made.1) made.2)
      ∧ ((∀ made ∈ p.sheets start.disk inputs, w'.disk.Holds (p.target made.1) made.2)
        ↔ ∀ made ∈ p.sheets start.disk inputs, ∀ other ∈ p.sheets start.disk inputs,
          FileName.stem ".yp.txt" made.1.name = FileName.stem ".yp.txt" other.1.name →
          made.2 = other.2) := by
  obtain ⟨p, start, hprepare, rfl, hdisk, hstorable⟩ := of_perform_run h
  have hextension := extension_of_prepare hprepare
  have hlast : ∀ before made after, p.sheets start.disk inputs = before ++ made :: after →
      (∀ other ∈ after,
        FileName.stem ".yp.txt" other.1.name ≠ FileName.stem ".yp.txt" made.1.name) →
      w'.disk.Holds (p.target made.1) made.2 := by
    intro before made after hsplit hafter
    rw [hdisk]
    exact holds_of_last_sheet hextension hstorable hsplit hafter
  refine ⟨p, start, hprepare, failures_add_length_sheets, hlast, ?_, ?_⟩
  · intro hall made hmade other hother hstem
    have hthere := hall other hother
    rw [← target_eq_iff.mpr hstem] at hthere
    exact (hall made hmade).unique hthere
  · intro hsame made hmade
    -- The last sheet of the stem is there, and it is this one.
    obtain ⟨before, final, after, hsplit, hstem, hafter⟩ := exists_last
      (fun other : Path × Text => FileName.stem ".yp.txt" other.1.name
        = FileName.stem ".yp.txt" made.1.name) hmade (by simp)
    have hstem : FileName.stem ".yp.txt" final.1.name = FileName.stem ".yp.txt" made.1.name := by
      simpa using hstem
    have hthere := hlast before final after hsplit fun other hother => by
      simpa [hstem] using hafter other hother
    rw [target_eq_iff.mpr hstem, hsame final (by simp [hsplit]) made hmade hstem] at hthere
    exact hthere

/-- Two sheets of different stems. -/
theorem sheets_held_iff_sample :
    let w := deskOf [("a.txt", titled "a"), ("b.txt", titled "b")]
    let inputs := [Path.ofText "a.txt", Path.ofText "b.txt"]
    (w.perform (run .default utf8Settings inputs)).1 = .ok 0
      ∧ ∀ made ∈ utf8Plan.sheets (utf8Plan.start w.disk) inputs,
        (w.perform (run .default utf8Settings inputs)).2.disk.Holds (utf8Plan.target made.1)
          made.2 := by
  intro w inputs
  have hrun : (w.perform (run .default utf8Settings inputs)).1 = .ok 0 := by decide +kernel
  obtain ⟨p, start, hprepare, -, -, hall⟩ := sheets_held_iff (Desk.perform_of_fst hrun)
  have hplan : utf8Plan.IsFor .utf8 .default utf8Settings w.disk := isFor_utf8Settings (by rfl)
  obtain ⟨hsame, rfl⟩ := Prod.mk.inj (hprepare.symm.trans (perform_prepare hplan))
  obtain rfl := Except.ok.inj hsame
  refine ⟨hrun, hall.mpr ?_⟩
  show ∀ made ∈ utf8Plan.sheets (utf8Plan.start w.disk) inputs,
    ∀ other ∈ utf8Plan.sheets (utf8Plan.start w.disk) inputs, _
  decide +kernel

/-- **A batch overwrites its own results**: two different sheets of one stem are both counted as
converted, and one of them is lost. -/
theorem not_every_sheet_held : ¬∀ (settings : Settings) (inputs : List Path) (w w' : Desk)
    (failed : Nat) (p : Plan) (start : Desk), inputs.Nodup →
    w.perform (run .default settings inputs) = (.ok failed, w') →
    w.perform (prepare .default settings) = (.ok p, start) →
    ∀ made ∈ p.sheets start.disk inputs, w'.disk.Holds (p.target made.1) made.2 := by
  intro h
  let w := deskOf [("a.txt", titled "a"), ("a.json", titled "b")]
  let inputs := [Path.ofText "a.txt", Path.ofText "a.json"]
  let sheets := utf8Plan.sheets (utf8Plan.start w.disk) inputs
  have hrun : (w.perform (run .default utf8Settings inputs)).1 = .ok 0 := by decide +kernel
  have hall := h utf8Settings inputs w _ 0 utf8Plan _ (by decide) (Desk.perform_of_fst hrun)
    (perform_prepare (isFor_utf8Settings (by rfl)))
  obtain ⟨hlength, htarget, hdistinct⟩ : sheets.length = 2
      ∧ (∀ made ∈ sheets, ∀ other ∈ sheets,
        utf8Plan.target made.1 = utf8Plan.target other.1)
      ∧ (sheets.map (·.2)).Nodup := by
    decide +kernel
  obtain ⟨made, other, hsheets⟩ := List.length_eq_two.mp hlength
  have hmade : made ∈ sheets := by simp [hsheets]
  have hother : other ∈ sheets := by simp [hsheets]
  have hthere := hall other hother
  rw [← htarget made hmade other hother] at hthere
  rw [hsheets] at hdistinct
  exact absurd ((hall made hmade).unique hthere) (by simpa using hdistinct)

end Batch

end SongSheet
