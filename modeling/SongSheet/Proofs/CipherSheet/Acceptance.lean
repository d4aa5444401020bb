import SongSheet.Proofs.CipherSheet.Notation

/-!
# What is read as music

The converse of the printers: a note, a chord that was read is well formed, and its printer gives
the text back (`Chord.of_ofText?`). With the bracket it is the same, so **a text is read as music
exactly when it spells that music** (`Music.ofText?_eq_some_iff`), and everything in it is there for
something: music holds no bracket but the one that opens it (`Music.not_mem_of_ofText?`) and no
blank (`Music.isBlank_of_spells`).
-/

set_option autoImplicit false

namespace SongSheet.CipherSheet

/-- A text is what stands before its marks, and every mark with what follows it. -/
theorem of_cutAtMarks {isMark : CodePoint → Bool} {t before : Text} {counted : List Counted}
    (h : cutAtMarks isMark t = (before, counted)) :
    t = before ++ counted.flatMap Counted.render ∧ ∀ m ∈ counted, isMark m.mark = true := by
  induction t generalizing before counted with
  | nil =>
    cases h
    exact ⟨rfl, nofun⟩
  | cons c t ih =>
    obtain ⟨ht, hmarks⟩ := ih (Prod.eta _).symm
    rw [cutAtMarks] at h
    dsimp only at h
    by_cases hc : isMark c = true
    · rw [if_pos hc] at h
      cases h
      refine ⟨?_, ?_⟩
      · rw [List.nil_append, List.flatMap_cons, Counted.render, List.cons_append, ← ht]
      · intro m hm
        rcases List.mem_cons.mp hm with rfl | hm
        · exact hc
        · exact hmarks m hm
    · rw [if_neg hc] at h
      cases h
      exact ⟨by rw [List.cons_append, ← ht], hmarks⟩

/-- What is read as a note is the text of that note. -/
theorem Note.of_ofText? {t : Text} {n : Note} (h : Note.ofText? t = some n) :
    n.WellFormed ∧ t = n.render := by
  cases t with
  | nil => cases h
  | cons digit t =>
    obtain ⟨ht, hmarks⟩ := of_cutAtMarks (Prod.eta (cutAtMarks isModifier t)).symm
    rw [Note.ofText?] at h
    dsimp only at h
    split at h
    case isFalse => cases h
    case isTrue hform =>
      simp only [Bool.and_eq_true, List.isEmpty_iff, List.all_eq_true] at hform
      obtain ⟨⟨hdigit, hbefore⟩, hdigits⟩ := hform
      obtain rfl := Option.some.inj h
      refine ⟨⟨hdigit, fun m hm => ⟨hmarks m hm, hdigits m hm⟩⟩, ?_⟩
      rw [hbefore, List.nil_append] at ht
      exact congrArg (digit :: ·) ht

/-- Texts that are read one by one are the texts of what is read. -/
theorem eq_map_render {α : Type} {ofText? : Text → Option α} {render : α → Text}
    (h : ∀ {t : Text} {x : α}, ofText? t = some x → t = render x) {ts : List Text} {xs : List α}
    (hxs : ts.mapM ofText? = some xs) : ts = xs.map render := by
  have hall := forall₂_of_mapM_eq_some hxs
  clear hxs
  induction hall with
  | nil => rfl
  | cons hx _ ih => rw [List.map_cons, ← ih, ← h hx]

/-- What is read as a chord is the text of that chord. -/
theorem Chord.of_ofText? {t : Text} {c : Chord} (h : Chord.ofText? t = some c) :
    c.WellFormed ∧ t = c.render := by
  obtain ⟨ht, hmarks⟩ := of_cutAtMarks (Prod.eta (cutAtMarks isStep t)).symm
  obtain ⟨notes, hnotes, h⟩ := Option.bind_eq_some_iff.mp h
  split at h
  case isFalse => cases h
  case isTrue hsteps =>
    obtain rfl := Option.some.inj h
    have hpieces := eq_map_render (fun hn => (Note.of_ofText? hn).2) hnotes
    refine ⟨⟨?_, ?_, ?_⟩, ?_⟩
    · rintro rfl
      exact Text.splitOn_ne_nil _ _ hpieces
    · intro n hn
      obtain ⟨piece, -, hpiece⟩ := exists_related_of_mem (forall₂_of_mapM_eq_some hnotes) hn
      exact (Note.of_ofText? hpiece).1
    · exact fun s hs => ⟨hmarks s hs, List.all_eq_true.mp hsteps s hs⟩
    · rw [Chord.render, ← hpieces]
      exact ht.trans (congrArg (· ++ _) (Text.join_splitOn '&' _).symm)

/-- What is read as chords is their texts with commas between them, and perhaps a comma more. -/
theorem of_chords? {t : Text} {cs : List Chord} (h : chords? t = some cs) :
    cs ≠ [] ∧ (∀ c ∈ cs, c.WellFormed) ∧ ∃ finish : Text, (finish = [] ∨ finish = ",")
      ∧ t = Text.join "," (cs.map Chord.render) ++ finish := by
  have hjoin : Text.join "," (Text.splitOn ',' t) = t := Text.join_splitOn ',' t
  have hof : ∀ {pieces : List Text}, ¬pieces.isEmpty = true → pieces.mapM Chord.ofText? = some cs →
      pieces ≠ [] ∧ pieces = cs.map Chord.render ∧ cs ≠ [] ∧ ∀ c ∈ cs, c.WellFormed := by
    intro pieces hempty hread
    have hall := forall₂_of_mapM_eq_some hread
    have hpieces := eq_map_render (fun hc => (Chord.of_ofText? hc).2) hread
    refine ⟨fun hnil => hempty (List.isEmpty_iff.mpr hnil), hpieces, ?_, ?_⟩
    · rintro rfl
      exact hempty (List.isEmpty_iff.mpr (List.forall₂_nil_right_iff.mp hall))
    · intro c hc
      obtain ⟨piece, -, hpiece⟩ := exists_related_of_mem hall hc
      exact (Chord.of_ofText? hpiece).1
  unfold chords? at h
  dsimp only at h
  by_cases hlast : (Text.splitOn ',' t).getLast? = some []
  · -- The piece behind a last comma is empty: the comma stands behind the chords.
    rw [if_pos hlast] at h
    split at h
    case isTrue => cases h
    case isFalse hempty =>
      obtain ⟨hpieces, hrender, hne, hwell⟩ := hof hempty h
      refine ⟨hne, hwell, ",", .inr rfl, ?_⟩
      rw [← hrender, ← Text.join_concat_nil hpieces, List.dropLast_append_getLast? _ hlast, hjoin]
  · rw [if_neg hlast] at h
    split at h
    case isTrue => cases h
    case isFalse hempty =>
      obtain ⟨-, hrender, hne, hwell⟩ := hof hempty h
      refine ⟨hne, hwell, [], .inl rfl, ?_⟩
      rw [List.append_nil, ← hrender, hjoin]

theorem of_key? {t : Text} {letter : CodePoint} {accidental : Option CodePoint}
    (h : key? t = some (letter, accidental)) :
    t = letter :: accidental.toList ∧ letter.between 'A' 'G' = true
      ∧ ∀ c ∈ accidental, c = '#' ∨ c = 'b' := by
  rw [key?.eq_def] at h
  split at h
  case h_1 =>
    split at h
    case isTrue hletter =>
      cases h
      exact ⟨rfl, hletter, nofun⟩
    case isFalse => cases h
  case h_2 letter' mark =>
    split at h
    case isTrue hform =>
      cases h
      simp only [Bool.and_eq_true, Bool.or_eq_true, decide_eq_true_eq] at hform
      refine ⟨rfl, hform.1, fun c hc => ?_⟩
      cases hc
      exact hform.2
    case isFalse => cases h
  case h_3 => cases h

theorem of_isMetre {t : Text} (h : isMetre t = true) :
    ∃ count unit : Text, isNumeral count = true ∧ isNumeral unit = true
      ∧ t = count ++ ("/" : Text) ++ unit := by
  have hjoin : Text.join "/" (Text.splitOn '/' t) = t := Text.join_splitOn '/' t
  rw [isMetre] at h
  split at h
  case h_1 count unit hpieces =>
    rw [hpieces] at hjoin
    obtain ⟨hcount, hunit⟩ := Bool.and_eq_true_iff.mp h
    exact ⟨count, unit, hcount, hunit, hjoin.symm⟩
  case h_2 => cases h

theorem Music.spells_of_ofText? {t : Text} {m : Music} (h : Music.ofText? t = some m) :
    m.Spells t := by
  obtain ⟨u, hafter, h⟩ := Option.bind_eq_some_iff.mp h
  obtain ⟨⟨bracket, body⟩, hcut, h⟩ := Option.bind_eq_some_iff.mp h
  dsimp only at h
  split at h
  case h_2 => cases h
  case h_1 key metre bpm hfields =>
    obtain ⟨⟨letter, accidental⟩, hkey, h⟩ := Option.bind_eq_some_iff.mp h
    dsimp only at h
    split at h
    case isFalse => cases h
    case isTrue hform =>
      obtain ⟨hmetre, hbpm⟩ := Bool.and_eq_true_iff.mp hform
      obtain ⟨cs, hchords, h⟩ := Option.bind_eq_some_iff.mp h
      cases h
      obtain ⟨rfl, hletter, haccidental⟩ := of_key? hkey
      obtain ⟨count, unit, hcount, hunit, rfl⟩ := of_isMetre hmetre
      obtain ⟨hne, hwell, finish, hfinish, rfl⟩ := of_chords? hchords
      refine ⟨⟨hletter, haccidental, hbpm, hne, hwell⟩, count, unit, finish, hcount, hunit, hfinish,
        ?_⟩
      have hjoin : Text.join "," (Text.splitOn ',' bracket) = bracket :=
        Text.join_splitOn ',' bracket
      rw [hfields] at hjoin
      rw [Text.after?_eq_some_iff.mp hafter, Text.eq_append_of_cut? hcut, ← hjoin]
      simp [Music.spelling, Text.join]

/-- **A text is read as music exactly when it spells that music.** -/
theorem Music.ofText?_eq_some_iff {t : Text} {m : Music} :
    Music.ofText? t = some m ↔ m.Spells t :=
  ⟨Music.spells_of_ofText?, Music.ofText?_of_spells⟩

/-- Music that is read is well formed. -/
theorem Music.wellFormed_of_ofText? {t : Text} {m : Music} (h : Music.ofText? t = some m) :
    m.WellFormed :=
  (Music.spells_of_ofText? h).1

/-- What stands behind the bracket that opens music is a digit, a letter of a key or one of the
grammar's marks. -/
theorem Music.forall_of_spells {P : CodePoint → Prop} (hdigit : ∀ c, c.isDigit = true → P c)
    (hletter : ∀ c : CodePoint, c.between 'A' 'G' = true → P c)
    (hmark : ∀ c ∈ ("=],/&*+-#b" : Text), P c) {t : Text} {m : Music} (h : m.Spells t) :
    ∃ u, t = .ofChar '[' :: u ∧ ∀ c ∈ u, P c := by
  obtain ⟨hwell, count, unit, finish, hcount, hunit, hfinish, rfl⟩ := h
  have hnumeral : ∀ {t : Text}, isNumeral t = true → ∀ c ∈ t, P c := fun ht c hc =>
    hdigit c (mem_of_areDigits (areDigits_of_isNumeral ht) hc)
  have hmarks : ∀ t : Text, t ⊆ "=],/&*+-#b" → ∀ c ∈ t, P c := fun t ht c hc => hmark c (ht hc)
  refine ⟨("1=" : Text) ++ (m.letter :: m.accidental.toList) ++ ("," : Text) ++ count
    ++ ("/" : Text) ++ unit ++ ("," : Text) ++ m.bpm ++ ("]" : Text)
    ++ Text.join "," (m.chords.map Chord.render) ++ finish, rfl, ?_⟩
  simp only [List.forall_mem_append]
  refine ⟨⟨⟨⟨⟨⟨⟨⟨⟨⟨?_, ?_⟩, hmarks "," (by decide)⟩, hnumeral hcount⟩, hmarks "/" (by decide)⟩,
    hnumeral hunit⟩, hmarks "," (by decide)⟩, hnumeral hwell.bpm⟩, hmarks "]" (by decide)⟩, ?_⟩, ?_⟩
  · intro c hc
    rcases List.mem_cons.mp hc with rfl | hc
    · exact hdigit _ (by decide)
    · exact hmarks "=" (by decide) c hc
  · intro c hc
    rcases Music.mem_key hwell hc with hc | rfl | rfl
    · exact hletter c hc
    · exact hmark _ (by decide)
    · exact hmark _ (by decide)
  · intro c hc
    rcases Text.mem_join hc with hc | ⟨piece, hpiece, hc⟩
    · exact hmarks "," (by decide) c hc
    · obtain ⟨chord, hchord, rfl⟩ := List.mem_map.mp hpiece
      rcases Chord.mem_render (hwell.chords chord hchord) hc with hc | hc | rfl | hc
      · exact hdigit c hc
      · rcases isModifier_cases hc with rfl | rfl | rfl | rfl <;> exact hmark _ (by decide)
      · exact hmark _ (by decide)
      · rcases isStep_cases hc with rfl | rfl <;> exact hmark _ (by decide)
  · rcases hfinish with rfl | rfl
    · exact nofun
    · exact hmarks "," (by decide)

/-- **Music that is read holds no bracket but the one that opens it.** -/
theorem Music.not_mem_of_ofText? {c : CodePoint} {t : Text} {m : Music}
    (h : Music.ofText? (c :: t) = some m) : ('[' : CodePoint) ∉ t := by
  have hletter : ∀ c : CodePoint, c.between 'A' 'G' = true → c ≠ '[' := by
    rintro c hc rfl
    exact absurd hc (by decide)
  have hdigit : ∀ c : CodePoint, c.isDigit = true → c ≠ '[' :=
    fun c hc => CodePoint.ne_of_isDigit hc (by decide)
  obtain ⟨u, hcons, hu⟩ := Music.forall_of_spells hdigit hletter (by decide)
    (Music.spells_of_ofText? h)
  obtain ⟨-, rfl⟩ := List.cons.inj hcons
  exact fun hmem => hu _ hmem rfl

/-- The music of a sheet holds no blank. -/
theorem Music.isBlank_of_spells {t : Text} {m : Music} (h : m.Spells t) :
    ∀ c ∈ t, c.isBlank = false := by
  have hletter : ∀ c : CodePoint, c.between 'A' 'G' = true → c.isBlank = false := by
    intro c hc
    simp only [CodePoint.between, Bool.and_eq_true, decide_eq_true_eq] at hc
    simp only [CodePoint.isBlank, Bool.or_eq_false_iff, Bool.and_eq_false_iff,
      decide_eq_false_iff_not]
    have hlow : 'A'.toNat = 65 := rfl
    have hhigh : 'G'.toNat = 71 := rfl
    omega
  obtain ⟨u, rfl, hu⟩ := Music.forall_of_spells (fun c hc => Text.isBlank_of_isDigit hc) hletter
    (by decide) h
  exact List.forall_mem_cons.mpr ⟨by decide, hu⟩

theorem Music.squeeze_of_spells {t : Text} {m : Music} (h : m.Spells t) : Text.squeeze t = t := by
  rw [Text.squeeze, List.filter_eq_self]
  intro c hc
  rw [Music.isBlank_of_spells h c hc]
  rfl

end SongSheet.CipherSheet
