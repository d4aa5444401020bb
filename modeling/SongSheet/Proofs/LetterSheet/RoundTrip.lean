import SongSheet.Proofs.LetterSheet.Chords
import SongSheet.Proofs.Text.Numeral

/-!
# Letter sheets — what is read of a written sheet

A letter sheet keeps less than it is given. The tempo is that of a unit, the title is lost, rests
and beats without time are gone, and the last chord sounds for four units at least. What is left is
what is *heard* (`heard`), and **the reader finds exactly that** (`read_spelled`), in every sheet
that the writer does not refuse; it refuses those with a tone that has no key in a beat that takes
time, and no others.
-/

set_option autoImplicit false

namespace SongSheet.LetterSheet

variable {score : Score} {author transcriber : Text}

/-! ## 1. The header -/

/-- The words of a header after its mark. -/
def headerWords (score : Score) (author transcriber : Text) : List Text :=
  [.ofNat (score.bpm * commonDenominator score.beats).natAbs, .ofNat (score.keyNote % 12).natAbs,
    "16", author, transcriber]

theorem isWord_ofNat (n : Nat) : Text.IsWord (.ofNat n) :=
  ⟨Text.ofNat_ne_nil n, fun _ hc => Text.isBlank_of_isDigit (Text.isDigit_of_mem_ofNat hc)⟩

theorem isWord_of_mem_headerWords (hauthor : Text.IsWord author)
    (htranscriber : Text.IsWord transcriber) :
    ∀ w ∈ headerWords score author transcriber, Text.IsWord w := by
  intro w hw
  simp only [headerWords, List.mem_cons, List.not_mem_nil, or_false] at hw
  rcases hw with rfl | rfl | rfl | rfl | rfl
  · exact isWord_ofNat _
  · exact isWord_ofNat _
  · exact ⟨by decide, by decide⟩
  · exact hauthor
  · exact htranscriber

/-- The mark and the words after it. -/
def headerLine (ws : List Text) : Text := mark ++ ((" " : Text) ++ Text.join " " ws)

theorem header_eq (hauthor : score.author = .string author)
    (htranscriber : score.transcriber = .string transcriber) (hbpm : 0 < score.bpm) :
    header score (commonDenominator score.beats)
      = headerLine (headerWords score author transcriber) := by
  have htempo : 0 ≤ score.bpm * commonDenominator score.beats :=
    Int.mul_nonneg hbpm.le (Int.natCast_nonneg _)
  have hkey : 0 ≤ score.keyNote % 12 := Int.emod_nonneg _ (by decide)
  rw [header, hauthor, htranscriber, Text.ofInt_of_nonneg htempo, Text.ofInt_of_nonneg hkey]
  rfl

/-! ## 2. The sheet in two parts -/

/-- A blank other than the one that joins words stands in none of them. -/
theorem not_mem_join {c : CodePoint} (hblank : c.isBlank = true) (hc : c ∉ (" " : Text))
    {ws : List Text} (hws : ∀ w ∈ ws, Text.IsWord w) : c ∉ Text.join " " ws := by
  intro hmem
  rcases Text.mem_join hmem with hmem | ⟨w, hw, hmem⟩
  · exact hc hmem
  · rw [(hws w hw).2 c hmem] at hblank
    cases hblank

/-- A sheet with these words in its header and these key lines. -/
def sheetText (hs : List Text) (keyLines : Text) : Text :=
  headerLine hs ++ ("\n" : Text) ++ keyLines

theorem cut?_mark (hs : List Text) (keyLines : Text) :
    Text.cut? ">" (sheetText hs keyLines)
      = some (("<DontCopyThisLine" : Text),
        (" " : Text) ++ Text.join " " hs ++ ('\n' : CodePoint) :: keyLines) := by
  have hopen : sheetText hs keyLines = ("<DontCopyThisLine" : Text) ++ ('>' : CodePoint)
      :: ((" " : Text) ++ Text.join " " hs ++ ('\n' : CodePoint) :: keyLines) := by
    rw [sheetText, headerLine, List.append_assoc, List.append_assoc]
    rfl
  rw [hopen]
  exact Text.cut?_singleton (by decide) _

theorem cut?_line {hs : List Text} (hhs : ∀ w ∈ hs, Text.IsWord w) (keyLines : Text) :
    Text.cut? "\n" ((" " : Text) ++ Text.join " " hs ++ ('\n' : CodePoint) :: keyLines)
      = some ((" " : Text) ++ Text.join " " hs, keyLines) := by
  refine Text.cut?_singleton ?_ keyLines
  rw [List.mem_append, not_or]
  exact ⟨by decide, not_mem_join (by decide) (by decide) hhs⟩

theorem contains_mark (hs : List Text) (keyLines : Text) :
    Text.contains mark (sheetText hs keyLines) = true := by
  have hcontains : Text.contains mark ([] ++ mark
      ++ ((" " : Text) ++ Text.join " " hs ++ (("\n" : Text) ++ keyLines))) = true :=
    Text.contains_eq_true
  simpa only [sheetText, headerLine, List.append_assoc, List.nil_append] using hcontains

/-- **The header and the key lines come apart again**, each without the blanks at its ends. -/
theorem splitHeader_of_words {hs ws : List Text} (hhs : ∀ w ∈ hs, Text.IsWord w) (hne : ws ≠ [])
    (hws : ∀ w ∈ ws, Text.IsWord w) :
    splitHeader (sheetText hs (ws.flatMap (· ++ (" " : Text))))
      = .ok (Text.join " " hs, Text.join " " ws) := by
  have hbody : Text.join " " ws ≠ [] := by
    cases ws with
    | nil => exact absurd rfl hne
    | cons w ws => cases ws <;> simp [Text.join, (hws w (by simp)).1]
  have htrim : Text.trim (sheetText hs (ws.flatMap (· ++ (" " : Text))))
      = sheetText hs (Text.join " " ws) := by
    rw [sheetText, Text.flatMap_end hne, ← List.append_assoc]
    refine Text.trim_append_blank (by decide) ?_ ?_ (by simp [hbody])
    · intro c hc
      obtain rfl : '<' = c := Option.some.inj hc
      decide
    · rw [List.getLast?_append_of_ne_nil _ hbody]
      exact Text.join_last hws
  have hunix : Text.unixLines (sheetText hs (Text.join " " ws))
      = sheetText hs (Text.join " " ws) := by
    refine Text.unixLines_eq_self ?_
    simp only [sheetText, headerLine, List.mem_append, not_or]
    exact ⟨⟨⟨by decide, by decide, not_mem_join (by decide) (by decide) hhs⟩, by decide⟩,
      not_mem_join (by decide) (by decide) hws⟩
  have hsome : (sheetText hs (Text.join " " ws)).isEmpty = false := rfl
  have hheader : Text.trim ((" " : Text) ++ Text.join " " hs) = Text.join " " hs :=
    Text.trim_cons_blank (by decide) (Text.join_head hhs) (Text.join_last hhs)
  unfold splitHeader
  simp only [htrim, hunix, hsome, contains_mark, cut?_mark, cut?_line hhs, hheader]
  rfl

/-! ## 3. Written and read -/

theorem write_eq (hauthor : score.author = .string author)
    (htranscriber : score.transcriber = .string transcriber) (hbpm : 0 < score.bpm)
    (hden : ∀ b ∈ score.beats, 0 < b.rate.den) :
    write score = (score.beats.mapM (beatWords (commonDenominator score.beats))).map fun wss =>
      sheetText (headerWords score author transcriber)
        (wss.flatten.flatMap (· ++ (" " : Text))) := by
  simp only [write, unitsPerBeat_eq hden, sheetText, ← header_eq hauthor htranscriber hbpm]
  cases score.beats.mapM (beatWords (commonDenominator score.beats)) <;> rfl

/-- The title of a letter sheet: the name of its file without the extension. -/
def titleOf (fileName : Option Text) : Text :=
  FileName.stem [] (match fileName with
    | none | some [] => "Unknown"
    | some name => name)

theorem readHeader_of_words (hauthor : Text.IsWord author) (htranscriber : Text.IsWord transcriber)
    (hbpm : 0 < score.bpm) (fileName : Text) :
    readHeader (Text.join " " (headerWords score author transcriber)) fileName
      = .ok {
        name := .string (FileName.stem [] fileName)
        author := .string author
        transcriber := .string transcriber
        keyNote := score.keyNote % 12
        bpm := score.bpm * commonDenominator score.beats } := by
  have htempo : 0 < score.bpm * commonDenominator score.beats :=
    Int.mul_pos hbpm (Int.natCast_pos.mpr (commonDenominator_pos score.beats))
  have hkey : 0 ≤ score.keyNote % 12 := Int.emod_nonneg _ (by decide)
  have hwords : Text.words (Text.join " " (headerWords score author transcriber))
      = headerWords score author transcriber :=
    Text.words_join (by decide) (isWord_of_mem_headerWords hauthor htranscriber)
  have hreadTempo : Score.checkBpm (Json.ofInt?
      (Text.leadingInt? (Text.ofNat (score.bpm * commonDenominator score.beats).natAbs)))
        = .ok (score.bpm * commonDenominator score.beats) := by
    rw [Text.leadingInt?_ofNat, Int.natAbs_of_nonneg htempo.le]
    exact if_neg htempo.not_ge
  have hreadKey : Score.checkPitchLevel (Json.ofInt?
      (Text.leadingInt? (Text.ofNat (score.keyNote % 12).natAbs)))
        = .ok (score.keyNote % 12) := by
    rw [Text.leadingInt?_ofNat, Int.natAbs_of_nonneg hkey]
    exact if_neg (by omega)
  rw [readHeader, hwords]
  simp only [headerWords, List.getD_cons_zero, List.getD_cons_succ, hreadTempo, hreadKey]
  rfl

theorem readKeys_of_words {ws : List Text} {ms : List Mark} (hne : ws ≠ [])
    (h : Spells (ws.flatMap (· ++ (" " : Text))) ms) :
    readKeys (Text.join " " ws) = .ok (LetterSheet.beats (gather ms)) := by
  have hmarks := h.marks_eq
  rw [Text.flatMap_end hne] at hmarks
  obtain ⟨ns, hns, rfl⟩ := marks_of_append_blank hmarks
  rw [readKeys, hns, gather_append_blank]

/-- A score with a beat that takes time has words. -/
theorem words_ne_nil {wss : List (List Text)} {n : Nat} (hn : 0 < n)
    (hden : ∀ b ∈ score.beats, 0 < b.rate.den ∧ b.rate.value.den ∣ n)
    (hlasts : ∃ b ∈ score.beats, b.Lasts) (h : score.beats.mapM (beatWords n) = .ok wss) :
    wss.flatten ≠ [] := by
  obtain ⟨b, hb, hlast⟩ := hlasts
  obtain ⟨ws, hws, hbeat⟩ := exists_related_of_mem (mapM_eq_ok_iff.mp h).flip hb
  intro hnil
  have hempty : ws = [] := List.flatten_eq_nil_iff.mp hnil ws hws
  exact beatWords_ne_nil hn (hden b hb).1 (hden b hb).2 hlast hbeat hempty

/-- What is heard of beats, in units of their least common denominator: only those that take time
count. -/
def heardOf (beats : List Beat) : List Beat :=
  let length := unitsOf (commonDenominator beats)
  let lasting := beats.filter (·.Lasts)
  heard (lasting.map length).sum (soundings length 0 lasting)

theorem beats_marksOf (beats : List Beat) :
    LetterSheet.beats (gather (marksOf (unitsOf (commonDenominator beats)) beats))
      = heardOf beats := by
  have hpos := commonDenominator_pos beats
  rw [← marksOf_filter hpos]
  refine beats_gather fun b hb => (unitsOf_pos hpos).mpr ?_
  exact of_decide_eq_true (List.mem_filter.mp hb).2

section

variable (hauthor : score.author = .string author)
  (htranscriber : score.transcriber = .string transcriber) (hbpm : 0 < score.bpm)
  (hden : ∀ b ∈ score.beats, 0 < b.rate.den)

include hauthor htranscriber hbpm hden

/-- The writer succeeds unless a beat that takes time has a tone without a key. -/
theorem exists_write_iff : (∃ text, write score = .ok text)
    ↔ ∀ b ∈ score.beats, b.Lasts → ∀ tone ∈ b.tones, HasKey tone := by
  have hwords : (∃ wss, score.beats.mapM (beatWords (commonDenominator score.beats)) = .ok wss)
      ↔ ∀ b ∈ score.beats, b.Lasts → ∀ tone ∈ b.tones, HasKey tone := by
    rw [exists_mapM_iff]
    exact forall₂_congr fun b hb => exists_beatWords_iff (commonDenominator_pos score.beats)
      (hden b hb) (den_dvd_commonDenominator hb)
  rw [← hwords, write_eq hauthor htranscriber hbpm hden]
  constructor
  · rintro ⟨text, htext⟩
    obtain ⟨wss, hwss, -⟩ := map_eq_ok htext
    exact ⟨wss, hwss⟩
  · rintro ⟨wss, hwss⟩
    rw [hwss]
    exact ⟨_, rfl⟩

theorem kind_of_write {e : SheetError} (h : write score = .error e) : e.kind = .outOfRange := by
  rw [write_eq hauthor htranscriber hbpm hden] at h
  obtain ⟨b, hb, hbeat⟩ := exists_error_of_mapM (error_of_map h)
  exact kind_of_beatWords (hden b hb) (den_dvd_commonDenominator hb) hbeat

theorem read_of_write (hauthorWord : Text.IsWord author)
    (htranscriberWord : Text.IsWord transcriber) (hlasts : ∃ b ∈ score.beats, b.Lasts)
    {text : Text} (h : write score = .ok text) (fileName : Option Text) :
    read fileName text = .ok {
      name := .string (titleOf fileName)
      author := .string author
      transcriber := .string transcriber
      keyNote := score.keyNote % 12
      bpm := score.bpm * commonDenominator score.beats
      beats := heardOf score.beats } := by
  have hpos := commonDenominator_pos score.beats
  have hrates : ∀ b ∈ score.beats, 0 < b.rate.den
      ∧ b.rate.value.den ∣ commonDenominator score.beats :=
    fun b hb => ⟨hden b hb, den_dvd_commonDenominator hb⟩
  rw [write_eq hauthor htranscriber hbpm hden] at h
  obtain ⟨wss, hwss, rfl⟩ := map_eq_ok h
  have hwords : ∀ w ∈ wss.flatten, Text.IsWord w := by
    intro w hw
    obtain ⟨ws, hws, hw⟩ := List.mem_flatten.mp hw
    obtain ⟨b, hb, hbeat⟩ := exists_related_of_mem (mapM_eq_ok_iff.mp hwss) hws
    exact isWord_of_beatWords (hrates b hb).1 (hrates b hb).2 hbeat w hw
  have hne := words_ne_nil hpos hrates hlasts hwss
  -- The sheet comes apart into header and key lines, and either is read on its own.
  have hsplit := splitHeader_of_words
    (@isWord_of_mem_headerWords score _ _ hauthorWord htranscriberWord) hne hwords
  have hkeys := readKeys_of_words hne (spells_beats hrates hwss)
  rw [beats_marksOf] at hkeys
  unfold read
  simp only [hsplit, readHeader_of_words hauthorWord htranscriberWord hbpm, hkeys, bind,
    Except.bind]
  rfl

end

/-- **A letter sheet is written for the scores whose sounding tones all have keys, and reading it
gives what is heard of them**: in units of the least common denominator, a rest up to the first
chord, then every chord from its own start to the start of the next, the last one for four units at
least. -/
theorem read_spelled (hauthor : score.author = .string author)
    (htranscriber : score.transcriber = .string transcriber) (hauthorWord : Text.IsWord author)
    (htranscriberWord : Text.IsWord transcriber) (hbpm : 0 < score.bpm)
    (hden : ∀ b ∈ score.beats, 0 < b.rate.den) (hlasts : ∃ b ∈ score.beats, b.Lasts) :
    let perBeat := commonDenominator score.beats
    (∀ b ∈ score.beats, (unitsOf perBeat b : Rat) = perBeat * b.rate.value)
      ∧ ((∃ text, write score = .ok text)
        ↔ ∀ b ∈ score.beats, b.Lasts → ∀ tone ∈ b.tones, HasKey tone)
      ∧ (∀ e, write score = .error e → e.kind = .outOfRange)
      ∧ ∀ text, write score = .ok text → ∀ fileName,
        read fileName text = .ok {
          name := .string (titleOf fileName)
          author := .string author
          transcriber := .string transcriber
          keyNote := score.keyNote % 12
          bpm := score.bpm * perBeat
          beats := heardOf score.beats } := by
  intro perBeat
  refine ⟨?_, ?_, ?_, ?_⟩
  · intro b hb
    exact unitsOf_exact hb
  · exact exists_write_iff hauthor htranscriber hbpm hden
  · intro e he
    exact kind_of_write hauthor htranscriber hbpm hden he
  · intro text htext fileName
    exact read_of_write hauthor htranscriber hbpm hden hauthorWord htranscriberWord hlasts htext
      fileName

/-- A rest in front and one within, a tone twice in a chord, an accidental in a beat without time.
-/
theorem read_spelled_sample :
    let score : Score := {
      author := .string "A"
      transcriber := .string "B"
      keyNote := -1
      bpm := 60
      beats := [⟨⟨1, 2, by decide⟩, []⟩, ⟨⟨2, 6, by decide⟩, [4, 0, 4]⟩, ⟨⟨0, 5, by decide⟩, [1]⟩,
        ⟨⟨-1, 4, by decide⟩, [3]⟩, ⟨⟨1, 6, by decide⟩, []⟩, ⟨⟨1, 3, by decide⟩, [24]⟩] }
    ∃ text, write score = .ok text ∧ read none text = .ok { score with
      name := .string "Unknown"
      keyNote := 11
      bpm := 720
      beats := [⟨⟨6, 1, by decide⟩, []⟩, ⟨⟨6, 1, by decide⟩, [4, 0]⟩,
        ⟨⟨4, 1, by decide⟩, [24]⟩] } := by
  intro score
  obtain ⟨-, hwrite, -, hread⟩ := @read_spelled score _ _ rfl rfl ⟨by decide, by decide⟩
    ⟨by decide, by decide⟩ (by decide) (by decide) (by decide +kernel)
  have hkeys : ∀ b ∈ score.beats, b.Lasts → ∀ tone ∈ b.tones, HasKey tone := by
    decide +kernel
  obtain ⟨text, htext⟩ := hwrite.mpr hkeys
  refine ⟨text, htext, (hread text htext none).trans (congrArg Except.ok ?_)⟩
  decide +kernel

end SongSheet.LetterSheet
