import SongSheet.Proofs.Traversal
import SongSheet.Proofs.Yaml.Table
import SongSheet.Settings

/-!
# Settings come from the uppermost layer that gives them

The defaults, a settings file and the command line are tables of sections, laid one over another by
`merge`. What is under a name afterwards is what was under it before, unless the upper table has
something there (`at?_merge`); a null has nothing to say at either level, and a section that is
missing or null leaves the whole section as it was.

So **every setting has the value of the command line, or else of the file, or else its default**,
and settings are refused for nothing but a format or an encoding that stands for nothing
(`load_exact`).
-/

set_option autoImplicit false

namespace SongSheet.Settings

open Yaml

/-! ## 1. Laying one table over another -/

/-- A value laid over what is there, if anything is. -/
def overlay (lower : Option Value) : Value → Option Value
  | .scalar .null => lower
  | .table upper =>
    match lower with
    | some (.table lower) => some (.table (merge lower upper))
    | _ => some (.table upper)
  | value => some value

theorem at?_mergeEntry (base : Table) (key : Scalar) (value : Value) (name : Text) :
    (mergeEntry base key value).at? name
      = if key = .text name then overlay (base.at? name) value else base.at? name := by
  rw [mergeEntry.eq_def, overlay.eq_def]
  cases value with
  | scalar s => cases s <;> simp [Table.at?_put]
  | list _ | set _ | pairs _ => exact Table.at?_put ..
  | table upper =>
    dsimp only
    by_cases hkey : key = .text name
    · subst hkey
      rw [if_pos rfl]
      -- What is there decides both sides alike, so they are split together.
      rcases base.at? (.text name) with _ | ⟨_ | _ | _ | _ | _⟩ <;>
        exact (Table.at?_put ..).trans (if_pos rfl)
    · rw [if_neg hkey]
      split <;> exact (Table.at?_put ..).trans (if_neg hkey)

theorem at?_eq_none_of_distinct {name : Text} {value : Value} {rest : Table}
    (h : Table.Distinct ((.text name, value) :: rest)) : rest.at? name = none := by
  rw [Table.at?, List.find?_eq_none.mpr, Option.map_none]
  intro e he hsame
  have hkey : e.1 = .text name := Scalar.isSameKey_text.mp hsame
  have hother := (List.pairwise_cons.mp h).1 e he
  rw [hkey] at hother
  exact Bool.false_ne_true (hother.symm.trans (Scalar.isSameKey_text.mpr rfl))

/-- **What is under a name in one table laid over another.** -/
theorem at?_merge {upper : Table} (h : upper.Distinct) (base : Table) (name : Text) :
    (merge base upper).at? name
      = (upper.at? name).elim (base.at? name) (overlay (base.at? name)) := by
  induction upper generalizing base with
  | nil => rw [merge]; rfl
  | cons entry upper ih =>
    obtain ⟨key, value⟩ := entry
    rw [merge, ih (List.pairwise_cons.mp h).2, at?_mergeEntry, Table.at?_cons]
    by_cases hkey : key = .text name
    · subst hkey
      rw [at?_eq_none_of_distinct h, if_pos rfl, if_pos rfl]
      rfl
    · rw [if_neg hkey, if_neg hkey]

/-- No key comes from elsewhere, so the names stay known. -/
theorem named_merge {names : List Text} {upper : Table}
    (hupper : ∀ e ∈ upper, isNamed names e.1 = true) {base : Table}
    (hbase : ∀ e ∈ base, isNamed names e.1 = true) :
    ∀ e ∈ merge base upper, isNamed names e.1 = true := by
  induction upper generalizing base with
  | nil => rwa [merge]
  | cons entry upper ih =>
    obtain ⟨key, value⟩ := entry
    obtain ⟨hkey, hrest⟩ := List.forall_mem_cons.mp hupper
    have hput : ∀ value, ∀ e ∈ base.put key value, isNamed names e.1 = true := by
      intro value e he
      rcases (Table.of_mem_put he).1 with heq | ⟨old, hold, heq⟩
      · exact heq ▸ hkey
      · exact heq ▸ hbase old hold
    rw [merge]
    refine ih hrest ?_
    rw [mergeEntry.eq_def]
    split
    case h_1 => exact hbase
    case h_2 => split <;> exact hput _
    case h_3 => exact hput _

/-! ## 2. Sections -/

/-- A section as a layer may have it: missing, null, or a table of scalars under names of settings.
-/
def isSection (names : List Text) : Option Value → Bool
  | none | some (.scalar .null) => true
  | some (.table entries) => entries.all fun
    | (key, .scalar _) => isNamed names key
    | _ => false
  | some _ => false

/-- A table of sections. Nothing is said of what else it has. -/
structure IsLayer (t : Table) : Prop where
  conversion : isSection conversionNames (t.at? ("conversion" : Text)) = true
  logging : isSection loggingNames (t.at? ("logging" : Text)) = true

instance (t : Table) : Decidable (IsLayer t) :=
  decidable_of_iff (isSection conversionNames (t.at? ("conversion" : Text)) = true
      ∧ isSection loggingNames (t.at? ("logging" : Text)) = true)
    ⟨fun h => ⟨h.1, h.2⟩, fun h => ⟨h.conversion, h.logging⟩⟩

/-- The entries of a section, which may be missing. -/
def entriesOf (part : Option Value) : Table := part.elim [] Value.entries

/-- The value under a name, unless it is null. -/
def given? (entries : Table) (name : Text) : Option Value :=
  match entries.at? name with
  | some (.scalar .null) => none
  | value => value

section Sections

variable {names : List Text} {part : Option Value}

/-- The three kinds of sections. -/
theorem isSection_cases (h : isSection names part = true) :
    (part = none ∨ part = some .null) ∨ ∃ entries, part = some (.table entries)
      ∧ ∀ e ∈ entries, isNamed names e.1 = true ∧ ∃ s, e.2 = .scalar s := by
  rw [isSection.eq_def] at h
  split at h
  case h_1 => exact .inl (.inl rfl)
  case h_2 => exact .inl (.inr rfl)
  case h_3 entries =>
    refine .inr ⟨entries, rfl, fun e he => ?_⟩
    have hentry := List.all_eq_true.mp h e he
    obtain ⟨key, value⟩ := e
    cases value with
    | scalar s => exact ⟨hentry, s, rfl⟩
    | _ => cases hentry
  case h_4 => cases h

theorem of_mem_entriesOf (h : isSection names part = true) :
    ∀ e ∈ entriesOf part, isNamed names e.1 = true ∧ ∃ s, e.2 = .scalar s := by
  rcases isSection_cases h with (rfl | rfl) | ⟨entries, rfl, hentries⟩
  · exact nofun
  · exact nofun
  · exact hentries

/-- A section laid over a table is its entries laid over it, also where it is missing or null. -/
theorem overlay_section (h : isSection names part = true) (lower : Table) :
    part.elim (some (.table lower)) (overlay (some (.table lower)))
      = some (.table (merge lower (entriesOf part))) := by
  have hnothing : some (Value.table lower) = some (.table (merge lower [])) := by rw [merge]
  rcases isSection_cases h with (rfl | rfl) | ⟨entries, rfl, -⟩
  · exact hnothing
  · exact hnothing
  · rfl

/-- What is under a name in a table of settings laid over another. -/
theorem at?_merge_entriesOf (h : isSection names part = true)
    (hdistinct : (entriesOf part).Distinct) (lower : Table) (name : Text) :
    (merge lower (entriesOf part)).at? name
      = (given? (entriesOf part) name).or (lower.at? name) := by
  rw [at?_merge hdistinct, given?]
  cases hat : (entriesOf part).at? name with
  | none => rfl
  | some value =>
    obtain ⟨e, hfind, rfl⟩ := Option.map_eq_some_iff.mp hat
    obtain ⟨-, s, hs⟩ := of_mem_entriesOf h e (List.mem_of_find?_eq_some hfind)
    rw [hs]
    cases s <;> rfl

end Sections

/-! ## 3. Settings -/

/-- Settings whose format and encoding stand for something. -/
def checked (s : Settings) : Except SettingsError Settings :=
  if !s.outputFormat.isSet then .error .noFormat
  else if !s.encoding.isSet then .error .noEncoding
  else .ok s

theorem checked_eq_ok_iff {s settings : Settings} : checked s = .ok settings
    ↔ s.outputFormat.isSet = true ∧ s.encoding.isSet = true ∧ settings = s := by
  rw [checked]
  cases s.outputFormat.isSet with
  | false => simp
  | true =>
    cases s.encoding.isSet with
    | false => simp
    | true => simp [eq_comm]

theorem checked_eq_error_iff {s : Settings} {e : SettingsError} : checked s = .error e
    ↔ s.outputFormat.isSet = false ∧ e = .noFormat
      ∨ s.outputFormat.isSet = true ∧ s.encoding.isSet = false ∧ e = .noEncoding := by
  rw [checked]
  cases s.outputFormat.isSet with
  | false => simpa using eq_comm
  | true =>
    cases s.encoding.isSet with
    | false => simpa using eq_comm
    | true => simp

theorem readSection_of_at? {names : List Text} {name : Text} {t entries : Table}
    (hat : t.at? name = some (.table entries))
    (hnamed : ∀ e ∈ entries, isNamed names e.1 = true) :
    readSection names name t = .ok entries := by
  have hsection : ((t.at? name).getD .null).orElse (.table []) = .table entries := by
    rw [hat, Option.getD_some, Value.orElse]
    split
    case isTrue => rfl
    case isFalse hempty =>
      have hnil : entries = [] := by simpa [Value.isSet] using hempty
      rw [hnil]
  rw [readSection, hsection]
  exact if_pos (List.all_eq_true.mpr hnamed)

/-- The settings with these values under their names. -/
def ofValues (conversion logging : Text → Value → Value) : Settings :=
  let defaults : Settings := {}
  { outputFormat := conversion "output_format" defaults.outputFormat
    keyLayout := conversion "key_layout" defaults.keyLayout
    encoding := conversion "encoding" defaults.encoding
    outputDir := conversion "output_dir" defaults.outputDir
    errorLogs := conversion "error_logs" defaults.errorLogs
    verbose := logging "verbose" defaults.verbose }

/-- The settings of two known sections. -/
theorem ofTable_eq {t conversion logging : Table}
    (hconversion : t.at? ("conversion" : Text) = some (.table conversion))
    (hknown : ∀ e ∈ conversion, isNamed conversionNames e.1 = true)
    (hlogging : t.at? ("logging" : Text) = some (.table logging))
    (hknown' : ∀ e ∈ logging, isNamed loggingNames e.1 = true) :
    ofTable t = checked (ofValues (fun name default => (conversion.at? name).getD default)
      fun name default => (logging.at? name).getD default) := by
  rw [ofTable, readSection_of_at? hconversion hknown, readSection_of_at? hlogging hknown']
  rfl

/-- The value of a setting in layers: that of the upper one, or else that of the file, or else the
default. -/
def layered (file overrides : Table) (part name : Text) (default : Value) : Value :=
  ((given? (entriesOf (overrides.at? part)) name).or
    (given? (entriesOf (file.at? part)) name)).getD default

theorem distinct_entriesOf {t : Table} (h : t.IsMapping) (part : Text) :
    (entriesOf (t.at? part)).Distinct := by
  cases hat : t.at? part with
  | none => exact .nil
  | some value =>
    obtain ⟨e, hfind, rfl⟩ := Option.map_eq_some_iff.mp hat
    exact h.inner e (List.mem_of_find?_eq_some hfind)

/-- A section of the merged layers: its names are known, and under each is the layered value. -/
theorem exists_section {file overrides defaults : Table} {part : Text} {names : List Text}
    (hfile : file.IsMapping) (hpart : isSection names (file.at? part) = true)
    (hover : overrides.IsMapping) (hpart' : isSection names (overrides.at? part) = true)
    (hdefaults : (toTable {}).at? part = some (.table defaults))
    (hnamed : ∀ e ∈ defaults, isNamed names e.1 = true) :
    ∃ entries : Table,
      (merge (merge (toTable {}) file) overrides).at? part = some (.table entries)
      ∧ (∀ e ∈ entries, isNamed names e.1 = true)
      ∧ ∀ (name : Text) default, defaults.at? name = some default →
        (entries.at? name).getD default = layered file overrides part name default := by
  have hnames := fun e he => (of_mem_entriesOf hpart e he).1
  have hnames' := fun e he => (of_mem_entriesOf hpart' e he).1
  refine ⟨merge (merge defaults (entriesOf (file.at? part))) (entriesOf (overrides.at? part)), ?_,
    named_merge hnames' (named_merge hnames hnamed), fun name default hdefault => ?_⟩
  · rw [at?_merge hover.keys, at?_merge hfile.keys, hdefaults, overlay_section hpart,
      overlay_section hpart']
  · rw [at?_merge_entriesOf hpart' (distinct_entriesOf hover part),
      at?_merge_entriesOf hpart (distinct_entriesOf hfile part), hdefault, layered]
    cases given? (entriesOf (overrides.at? part)) name with
    | some value => rfl
    | none => cases given? (entriesOf (file.at? part)) name <;> rfl

/-- The settings in two layers, every one by itself. -/
def eachLayered (file overrides : Table) : Settings :=
  ofValues (layered file overrides "conversion") (layered file overrides "logging")

/-- **Layers give every setting by itself.** -/
theorem ofLayers_eq {file : Option Table} {overrides : Table} (hfile : (file.getD []).IsMapping)
    (hlayer : IsLayer (file.getD [])) (hover : overrides.IsMapping) (hlayer' : IsLayer overrides) :
    ofLayers file overrides = checked (eachLayered (file.getD []) overrides) := by
  obtain ⟨conversion, hconversion, hknown, hvalue⟩ :=
    exists_section hfile hlayer.conversion hover hlayer'.conversion rfl (by decide)
  obtain ⟨logging, hlogging, hknown', hvalue'⟩ :=
    exists_section hfile hlayer.logging hover hlayer'.logging rfl (by decide)
  rw [ofLayers, ofTable_eq hconversion hknown hlogging hknown', eachLayered, ofValues, ofValues]
  dsimp only
  rw [hvalue _ _ rfl, hvalue _ _ rfl, hvalue _ _ rfl, hvalue _ _ rfl, hvalue _ _ rfl,
    hvalue' _ _ rfl]

/-! ## 4. Loading -/

theorem isMapping_of_fileTable {text : Text} {t : Table} (h : fileTable text = .ok t) :
    t.IsMapping := by
  rw [fileTable] at h
  split at h
  case h_1 => cases h
  case h_2 value hread =>
    split at h
    case h_2 => cases h
    case h_1 entries hentries =>
      obtain rfl := Except.ok.inj h
      rw [Value.orElse] at hentries
      split at hentries
      case isTrue =>
        rw [hentries] at hread
        exact isMapping_of_read hread
      case isFalse =>
        obtain rfl := Value.table.inj hentries
        exact ⟨.nil, nofun⟩

/-- The sections of a table without what else it has. -/
def sections (t : Table) : Table :=
  t.filter fun (key, _) => isNamed ["conversion", "logging"] key

theorem at?_sections (t : Table) {name : Text} (h : isNamed ["conversion", "logging"] name = true) :
    (sections t).at? name = t.at? name := by
  rw [Table.at?, Table.at?, sections, List.find?_filter]
  congr 2
  funext e
  have hkept : e.1.isSameKey name = true → isNamed ["conversion", "logging"] e.1 = true :=
    fun hsame => by rwa [Scalar.isSameKey_text.mp hsame]
  rw [Bool.eq_iff_iff, decide_eq_true_iff]
  exact and_iff_right_of_imp hkept

theorem IsLayer.sections {t : Table} (h : IsLayer t) : IsLayer (sections t) where
  conversion := by
    rw [at?_sections t (by decide)]
    exact h.conversion
  logging := by
    rw [at?_sections t (by decide)]
    exact h.logging

theorem isMapping_sections {t : Table} (h : t.IsMapping) : (sections t).IsMapping where
  keys := h.keys.filter _
  inner := fun e he => h.inner e (List.mem_of_mem_filter he)

theorem eachLayered_sections (file overrides : Table) :
    eachLayered (sections file) (sections overrides) = eachLayered file overrides := by
  have hlayered : ∀ part : Text, isNamed ["conversion", "logging"] part = true →
      layered (sections file) (sections overrides) part = layered file overrides part := by
    intro part hpart
    funext name default
    rw [layered, layered, at?_sections file hpart, at?_sections overrides hpart]
  rw [eachLayered, eachLayered, hlayered _ (by decide), hlayered _ (by decide)]

section Loading

variable {file : Option Text} {entries : Option Table} {overrides : Table}

theorem load_eq (h : file.mapM fileTable = .ok entries) (overrides : Table) :
    load file overrides = ofLayers entries overrides := by
  rw [load, h]
  rfl

/-- What can be tested of the table in a file is so of a table that the file holds. -/
theorem exists_fileTable {text : Text} {P : Table → Prop} [DecidablePred P]
    (h : (fileTable text).toOption.any (fun t => P t) = true) :
    ∃ t, (some text).mapM fileTable = .ok (some t) ∧ P t := by
  cases ht : fileTable text with
  | error e =>
    rw [ht] at h
    cases h
  | ok t =>
    rw [ht] at h
    refine ⟨t, ?_, of_decide_eq_true h⟩
    show (do return some (← fileTable text)) = _
    rw [ht]
    rfl

theorem isMapping_of_mapM (h : file.mapM fileTable = .ok entries) :
    (entries.getD []).IsMapping := by
  cases file with
  | none =>
    obtain rfl := Except.ok.inj h
    exact ⟨.nil, nofun⟩
  | some text =>
    obtain ⟨t, ht, h⟩ := bind_eq_ok h
    obtain rfl := Except.ok.inj h
    exact isMapping_of_fileTable ht

/-- **Every setting comes from the uppermost layer that gives it**: the value of the command line,
or else of the file, or else the default, where a null gives nothing. Settings are refused exactly
when the format or the encoding that comes out stands for nothing, and nothing but the two sections
of a layer plays a part. -/
theorem load_exact (hfile : file.mapM fileTable = .ok entries) (hlayer : IsLayer (entries.getD []))
    (hover : overrides.IsMapping) (hlayer' : IsLayer overrides) :
    let s := eachLayered (entries.getD []) overrides
    (∀ settings, load file overrides = .ok settings
        ↔ s.outputFormat.isSet = true ∧ s.encoding.isSet = true ∧ settings = s)
      ∧ (∀ e, load file overrides = .error e
        ↔ s.outputFormat.isSet = false ∧ e = .noFormat
          ∨ s.outputFormat.isSet = true ∧ s.encoding.isSet = false ∧ e = .noEncoding)
      ∧ load file overrides = ofLayers (entries.map sections) (sections overrides) := by
  have hfileMapping := isMapping_of_mapM hfile
  have hload : load file overrides = checked (eachLayered (entries.getD []) overrides) :=
    (load_eq hfile overrides).trans (ofLayers_eq hfileMapping hlayer hover hlayer')
  have hsections : (entries.map sections).getD [] = sections (entries.getD []) := by
    cases entries <;> rfl
  refine ⟨fun settings => ?_, fun e => ?_, ?_⟩
  · rw [hload]
    exact checked_eq_ok_iff
  · rw [hload]
    exact checked_eq_error_iff
  · rw [hload, ofLayers_eq (hsections ▸ isMapping_sections hfileMapping)
      (hsections ▸ hlayer.sections) (isMapping_sections hover) hlayer'.sections, hsections,
      eachLayered_sections]

end Loading

/-- A settings file with a null, a section that is null and an entry that is no section. -/
def layeredFile : Text := Text.join "\n" <| List.map Text.ofString
  ["conversion:", "  output_format: sky-studio-abc", "  encoding: cp1252", "  output_dir: null",
    "logging: ~", "extra: 1", ""]

/-- Values over it, among them a null and one that is no section either. -/
def layeredOverrides (encoding : Text) : Table := named
  [("conversion", .table (named [("output_format", .null), ("encoding", encoding)])),
    ("logging", .table (named [("verbose", .scalar (.bool true))])), ("extra", .list [])]

/-- The format is that of the file, the encoding was laid over it, and the directory is the default.
-/
theorem load_exact_sample :
    (∃ s, load (some layeredFile) (layeredOverrides "ascii") = .ok s
      ∧ s.outputFormat.text? = some ("sky-studio-abc" : Text)
      ∧ s.encoding.text? = some ("ascii" : Text)
      ∧ s.outputDir.text? = some ("output" : Text))
    ∧ load (some layeredFile) (layeredOverrides []) = .error .noEncoding := by
  obtain ⟨t, hentries, hlayer, hset, hformat, hdirectory⟩ : ∃ t,
      (some layeredFile).mapM fileTable = .ok (some t) ∧ IsLayer t
        ∧ (eachLayered t (layeredOverrides [])).outputFormat.isSet = true
        ∧ (eachLayered t (layeredOverrides [])).outputFormat.text? = some ("sky-studio-abc" : Text)
        ∧ (eachLayered t (layeredOverrides [])).outputDir.text? = some ("output" : Text) :=
    exists_fileTable (by decide +kernel)
  have hascii : (layeredOverrides "ascii").IsMapping ∧ IsLayer (layeredOverrides "ascii") := by
    decide
  have hempty : (layeredOverrides []).IsMapping ∧ IsLayer (layeredOverrides []) := by decide
  obtain ⟨hok, -, -⟩ := load_exact hentries hlayer hascii.1 hascii.2
  obtain ⟨-, herror, -⟩ := load_exact hentries hlayer hempty.1 hempty.2
  exact ⟨⟨_, (hok _).mpr ⟨hset, rfl, rfl⟩, hformat, rfl, hdirectory⟩,
    (herror _).mpr (.inr ⟨hset, rfl, rfl⟩)⟩

end SongSheet.Settings
