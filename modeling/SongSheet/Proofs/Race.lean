import SongSheet.Format
import SongSheet.Proofs.CipherSheet.Header
import SongSheet.Proofs.EventSheet.RoundTrip
import SongSheet.Proofs.LetterSheet.Refusal
import SongSheet.Proofs.Script.Refusal

/-!
# The race on written sheets

Nothing in a sheet says what format it is in, and metadata are written as they are, so a sheet may
hold whole sheets of other formats. Still, **no reader but its own accepts a sheet that a writer
wrote** (`race_written`): a race on it is won by the own reader or by none.

Four things keep the formats apart. Event sheets, letter sheets and cipher sheets start with signs
that no call starts with; none but an event sheet starts as a JSON value; none but a cipher sheet
has a bracket with a key behind its comments; and those without the header of a letter sheet are one
line, or have a star behind the last bracket in which a header could end.
-/

set_option autoImplicit false

namespace SongSheet

/-! ## 1. What is no event sheet -/

/-- What the sheets of the other formats start with begins no JSON value. -/
theorem Json.read_of_start {c : CodePoint} (hc : c ∈ ("</p" : Text)) (t : Text) :
    ∃ e, Json.read (c :: t) = .error e := by
  have hne : ∀ d ∉ ("</p" : Text), c ≠ d := by
    rintro d hd rfl
    exact hd hc
  have hspace : ∀ c ∈ ("</p" : Text), isSpace c = false := by decide
  have hmark : ∀ c ∈ ("</p" : Text), c.val ≠ 0xFEFF := by decide
  have hdigit : ∀ c ∈ ("</p" : Text), c.between '0' '9' = false := by decide
  have hword : word? (c :: t) = none :=
    word?_of_ne t ⟨hne _ (by decide), hne _ (by decide), hne _ (by decide), hne _ (by decide),
      hne _ (by decide)⟩ (after?_of_ne (hne _ (by decide)).symm _ t)
  have hnumber : number? (c :: t) = none := by
    have hdigits : asciiDigits (c :: t) = ([], c :: t) := by
      rw [asciiDigits, List.span_eq_takeWhile_dropWhile, List.takeWhile_cons, List.dropWhile_cons,
        hdigit c hc]
      rfl
    rw [number?]
    simp only [if_neg (hne (.ofChar '-') (by decide)), if_neg (hne (.ofChar '0') (by decide)),
      hdigits]
    rfl
  have hdocument : ∃ e, document (c :: t) = .error e := by
    rw [document, if_neg (hmark c hc), skipSpace_cons (hspace c hc), value,
      if_neg (hne _ (by decide)), if_neg (hne _ (by decide)), if_neg (hne _ (by decide)), hword,
      hnumber]
    exact ⟨_, rfl⟩
  obtain ⟨⟨problem, left⟩, he⟩ := hdocument
  rw [Json.read, he]
  exact ⟨_, rfl⟩

theorem EventSheet.read_of_start {c : CodePoint} (hc : c ∈ ("</p" : Text)) (t : Text) :
    ∃ e, EventSheet.read (c :: t) = .error e := by
  obtain ⟨e, he⟩ := Json.read_of_start hc t
  rw [EventSheet.read, he]
  exact ⟨_, rfl⟩

/-! ## 2. What is no cipher sheet -/

namespace CipherSheet

theorem read_of_music (fileName : Option Text) {t : Text}
    (h : Text.after? "[1=" (music t) = none) : ∃ e, read fileName t = .error e := by
  have hmusic : Music.ofText? (music t) = none := by
    rw [Music.ofText?, h]
    rfl
  rw [read, hmusic]
  exact ⟨_, rfl⟩

/-- A text that starts neither with a comment nor with a bracket is no cipher sheet. -/
theorem read_of_start (fileName : Option Text) {c : CodePoint} (hslash : c ≠ '/')
    (hblank : c.isBlank = false) (hbracket : c ≠ '[') (t : Text) :
    ∃ e, read fileName (c :: t) = .error e := by
  refine read_of_music fileName ?_
  rw [music_cons hslash hblank]
  exact Json.after?_of_ne hbracket.symm _ _

/-- An array of objects is no cipher sheet. -/
theorem read_of_array (fileName : Option Text) (t : Text) :
    ∃ e, read fileName (.ofChar '[' :: .ofChar '{' :: t) = .error e := by
  refine read_of_music fileName ?_
  rw [music_cons (by decide) (by decide), music_cons (by decide) (by decide)]
  exact (if_pos rfl).trans (Json.after?_of_ne (by decide) _ _)

/-! ## 3. Cipher sheets are no letter sheets -/

/-- A code point that the music of a written sheet may hold. -/
def isMusicPart (c : CodePoint) : Bool :=
  c.isDigit || isModifier c || isStep c || c ∈ ("[=,&]\nABCDEFG" : Text)

theorem isMusicPart_of_mem_ofInt {n : Int} {c : CodePoint} (hc : c ∈ Text.ofInt n) :
    isMusicPart c = true := by
  rcases Text.mem_ofInt hc with rfl | hbetween
  · decide
  · simp [isMusicPart, CodePoint.isDigit_of_between hbetween]

theorem isMusicPart_noteText {tone : Int} {c : CodePoint} (hc : c ∈ noteText tone) :
    isMusicPart c = true := by
  rw [noteText_eq] at hc
  rcases Note.mem_render (wellFormed_noteOf tone) hc with hc | hc <;> simp [isMusicPart, hc]

/-- The steps of a beat: nothing for a count of one. -/
theorem isMusicPart_step {sign : Text} {n : Int} (hsign : ∀ c ∈ sign, isMusicPart c = true)
    {c : CodePoint} (hc : c ∈ if n = 1 then [] else sign ++ Text.ofInt n) :
    isMusicPart c = true := by
  split at hc
  · cases hc
  · rcases List.mem_append.mp hc with hc | hc
    · exact hsign c hc
    · exact isMusicPart_of_mem_ofInt hc

theorem isMusicPart_beatText {b : Beat} {c : CodePoint} (hc : c ∈ beatText b) :
    isMusicPart c = true := by
  have hzero : ∀ c ∈ ("0" : Text), isMusicPart c = true := by decide
  have hand : ∀ c ∈ ("&" : Text), isMusicPart c = true := by decide
  have hcomma : ∀ c ∈ ("," : Text), isMusicPart c = true := by decide
  rw [beatText] at hc
  dsimp only at hc
  split at hc
  · cases hc
  simp only [List.mem_append] at hc
  rcases hc with ((hc | hc) | hc) | hc
  · split at hc
    · exact hzero c hc
    · rcases Text.mem_join hc with hc | ⟨note, hnote, hc⟩
      · exact hand c hc
      · obtain ⟨tone, -, rfl⟩ := List.mem_map.mp hnote
        exact isMusicPart_noteText hc
  · exact isMusicPart_step (by decide) hc
  · exact isMusicPart_step (by decide) hc
  · exact hcomma c hc

theorem isMusicPart_bracketText {score : Score} {c : CodePoint} (hc : c ∈ bracketText score) :
    isMusicPart c = true := by
  have hopen : ∀ c ∈ ("[1=" : Text), isMusicPart c = true := by decide
  have hmetre : ∀ c ∈ (",4/4," : Text), isMusicPart c = true := by decide
  have hclose : ∀ c ∈ ("]" : Text), isMusicPart c = true := by decide
  have hsharp : ∀ c ∈ ("#" : Text), isMusicPart c = true := by decide
  have hletters : ∀ n < 7, isMusicPart (letters.getD n 'C') = true := by decide
  simp only [bracketText, List.mem_append] at hc
  rcases hc with (((hc | hc) | hc) | hc) | hc
  · exact hopen c hc
  · rcases List.mem_cons.mp hc with rfl | hc
    · exact hletters _ (degree_lt score.keyNote)
    · split at hc
      · exact hsharp c hc
      · cases hc
  · exact hmetre c hc
  · exact isMusicPart_of_mem_ofInt hc
  · exact hclose c hc

theorem headerLines_head (score : Score) : (headerLines score).head? = some (.ofChar '/') := by
  have hhead : ("/**\n * name: " : Text).head? = some (.ofChar '/') := by decide
  have hne : ("/**\n * name: " : Text) ≠ [] := by decide
  simp only [headerLines, List.append_assoc]
  rw [List.head?_append_of_ne_nil _ hne, hhead]

theorem isMusicPart_musicLines {score : Score} {c : CodePoint} (hc : c ∈ musicLines score) :
    isMusicPart c = true := by
  have hfeed : ∀ c ∈ ("\n" : Text), isMusicPart c = true := by decide
  simp only [musicLines, List.mem_append] at hc
  rcases hc with ((hc | hc) | hc) | hc
  · exact hfeed c hc
  · exact isMusicPart_bracketText hc
  · exact hfeed c hc
  · obtain ⟨b, -, hc⟩ := List.mem_flatMap.mp hc
    exact isMusicPart_beatText hc

/-- **A written cipher sheet is no letter sheet**, whatever its metadata hold: behind them comes the
star that ends their comment, and no bracket that could end a header after it. -/
theorem letterSheet_read_write (fileName : Option Text) (score : Score) :
    ∃ e, LetterSheet.read fileName (write score) = .error e := by
  have hend : ("\n */" : Text) = .ofChar '\n' :: (" */" : Text) := by decide
  have hheader : headerLines score ≠ [] := by
    intro hnil
    have hhead := headerLines_head score
    rw [hnil] at hhead
    cases hhead
  have hhead : ∀ c ∈ (headerLines score ++ ("\n */" : Text)).head?, c.isBlank = false := by
    intro c hc
    rw [List.head?_append_of_ne_nil _ hheader, headerLines_head] at hc
    cases hc
    decide
  have hlast : ∀ c ∈ (headerLines score ++ ("\n */" : Text)).getLast?, c.isBlank = false := by
    have hstop : ∀ c ∈ ("\n */" : Text).getLast?, c.isBlank = false := by decide
    intro c hc
    rw [List.getLast?_append_of_ne_nil _ (by decide)] at hc
    exact hstop c hc
  -- Trimming may take blanks off the music, and the header loses its carriage returns.
  obtain ⟨v, hv, htrim⟩ :=
    Text.exists_trim_append hhead hlast (by simp [hheader]) (musicLines score)
  have hnot : ∀ d ∉ (" */" : Text), isMusicPart d = false → d ∉ (" */" : Text) ++ v := by
    intro d hd hpart hmem
    rcases List.mem_append.mp hmem with hmem | hmem
    · exact hd hmem
    · rw [isMusicPart_musicLines (hv.subset hmem)] at hpart
      cases hpart
  obtain ⟨u, hu⟩ := Text.exists_unixLines_append (headerLines score) ((" */" : Text) ++ v)
  rw [Text.unixLines_eq_self (hnot _ (by decide) (by decide))] at hu
  refine LetterSheet.read_of_star fileName (u := u) ?_ (hnot _ (by decide) (by decide))
    (List.mem_append_left _ (by decide))
  rw [write_eq_lines, htrim, ← hu, hend, List.append_assoc, List.cons_append]

end CipherSheet

/-! ## 4. Sheets of the other formats on one line -/

/-- A text without control characters, its ends apart, is no letter sheet. -/
theorem LetterSheet.read_of_printed (fileName : Option Text) {t : Text}
    (h : ∀ c ∈ Text.trim t, 0x20 ≤ c.val) : ∃ e, LetterSheet.read fileName t = .error e := by
  have hnot : ∀ d : CodePoint, d.val < 0x20 → d ∉ Text.trim t := by
    intro d hd hmem
    exact absurd (h d hmem) (Nat.not_le.mpr hd)
  refine read_of_oneLine fileName ?_
  rw [Text.unixLines_eq_self (hnot _ (by decide))]
  exact hnot _ (by decide)

namespace EventSheet

theorem exists_ofPlacement (score : Score) (placement : Placement) :
    ∃ t, ofPlacement score placement = .ofChar '[' :: .ofChar '{' :: t := ⟨_, rfl⟩

theorem letterSheet_read_ofPlacement (fileName : Option Text) {score : Score}
    {name author transcriber : Text} (placement : Placement) (hname : score.name = .string name)
    (hauthor : score.author = .string author)
    (htranscriber : score.transcriber = .string transcriber) :
    ∃ e, LetterSheet.read fileName (ofPlacement score placement) = .error e :=
  LetterSheet.read_of_printed fileName fun _ hc =>
    Json.val_of_mem_render _ (plain_document _ hname hauthor htranscriber) (Text.mem_of_mem_trim hc)

end EventSheet

namespace Script

theorem exists_call (name : Json) (content : Text) :
    ∃ t, call name content = .ofChar 'p' :: t := ⟨_, rfl⟩

theorem letterSheet_read_call (fileName : Option Text) (name content : Text) :
    ∃ e, LetterSheet.read fileName (call (.string name) content) = .error e := by
  have hhead : (callLine name content).head? = some (.ofChar 'p') := rfl
  have hlast : (callLine name content).getLast? = some (.ofChar ')') := by
    have hend : callLine name content = functionName ++ .ofChar '(' :: (Json.quote false name
        ++ .ofChar ',' :: .ofChar ' ' :: (Json.quote false content
          ++ [.ofChar ',', .ofChar ' ', .ofChar '2'])) ++ [.ofChar ')'] := by
      simp [callLine]
    rw [hend, List.getLast?_concat]
  have hne : callLine name content ≠ [] := List.ne_nil_of_mem (List.mem_of_getLast? hlast)
  have htrim : Text.trim (call (.string name) content) = callLine name content := by
    rw [call_eq_callLine]
    refine Text.trim_append_blank (by decide) ?_ ?_ hne
    · rw [hhead]
      rintro c ⟨⟩
      decide
    · rw [hlast]
      rintro c ⟨⟩
      decide
  refine LetterSheet.read_of_printed fileName ?_
  rw [htrim]
  exact fun c hc => (mem_callLine hc).1

end Script

theorem LetterSheet.exists_write {score : Score} {t : Text} (h : LetterSheet.write score = .ok t) :
    ∃ u, t = .ofChar '<' :: u := by
  obtain ⟨words, -, h⟩ := bind_eq_ok h
  cases h
  exact ⟨_, rfl⟩

/-! ## 5. The race -/

namespace Format

variable {f : Format} {fileName : Option Text} {t : Text}

/-- No reader but that of a format accepts a text. -/
def OnlyReads (f : Format) (fileName : Option Text) (t : Text) : Prop :=
  ∀ g, g ≠ f → ∃ e, g.reader fileName t = .error e

theorem exists_error_mapError {α ε ε' : Type} {wrap : ε → ε'} {x : Except ε α}
    (h : ∃ e, x = .error e) : ∃ e, x.mapError wrap = .error e := by
  obtain ⟨e, rfl⟩ := h
  exact ⟨wrap e, rfl⟩

theorem onlyReads_eventSheet {score : Score} {name author transcriber : Text}
    (placement : Placement) (hname : score.name = .string name)
    (hauthor : score.author = .string author)
    (htranscriber : score.transcriber = .string transcriber) :
    OnlyReads .eventSheet fileName (EventSheet.ofPlacement score placement) := by
  obtain ⟨t, ht⟩ := EventSheet.exists_ofPlacement score placement
  intro g hg
  cases g with
  | eventSheet => exact absurd rfl hg
  | letterSheet =>
    exact exists_error_mapError
      (EventSheet.letterSheet_read_ofPlacement fileName placement hname hauthor htranscriber)
  | cipherSheet =>
    rw [ht]
    exact exists_error_mapError (CipherSheet.read_of_array fileName t)
  | script =>
    rw [ht]
    exact Script.read_of_sign (by decide) _

theorem onlyReads_letterSheet {score : Score} {t : Text} (h : LetterSheet.write score = .ok t) :
    OnlyReads .letterSheet fileName t := by
  obtain ⟨u, rfl⟩ := LetterSheet.exists_write h
  intro g hg
  cases g with
  | eventSheet =>
    exact exists_error_mapError (EventSheet.read_of_start (c := .ofChar '<') (by decide) u)
  | letterSheet => exact absurd rfl hg
  | cipherSheet =>
    exact exists_error_mapError
      (CipherSheet.read_of_start fileName (by decide) (by decide) (by decide) u)
  | script => exact Script.read_of_sign (by decide) u

theorem onlyReads_cipherSheet (score : Score) :
    OnlyReads .cipherSheet fileName (CipherSheet.write score) := by
  obtain ⟨t, ht⟩ : ∃ t, CipherSheet.write score = .ofChar '/' :: t := ⟨_, rfl⟩
  intro g hg
  cases g with
  | eventSheet =>
    rw [ht]
    exact exists_error_mapError (EventSheet.read_of_start (c := .ofChar '/') (by decide) t)
  | letterSheet => exact exists_error_mapError (CipherSheet.letterSheet_read_write fileName score)
  | cipherSheet => exact absurd rfl hg
  | script =>
    rw [ht]
    exact Script.read_of_sign (by decide) t

theorem onlyReads_script (name content : Text) :
    OnlyReads .script fileName (Script.call (.string name) content) := by
  obtain ⟨t, ht⟩ := Script.exists_call (.string name) content
  intro g hg
  cases g with
  | eventSheet =>
    rw [ht]
    exact exists_error_mapError (EventSheet.read_of_start (c := .ofChar 'p') (by decide) t)
  | letterSheet =>
    exact exists_error_mapError (Script.letterSheet_read_call fileName name content)
  | cipherSheet =>
    rw [ht]
    exact exists_error_mapError
      (CipherSheet.read_of_start fileName (by decide) (by decide) (by decide) t)
  | script => exact absurd rfl hg

/-- The readers of some formats under their labels. -/
def entries (formats : List Format) : List (Text × Reader) :=
  formats.map fun f => (f.label, f.reader)

/-- A race that only one reader can win is won by it. -/
theorem result_of_ok {formats : List Format} (hf : f ∈ formats) (honly : OnlyReads f fileName t)
    {score : Score} (h : f.reader fileName t = .ok score) :
    (Registry.raceAmong fileName t (entries formats)).winner = some (f.label, score) := by
  induction formats with
  | nil => cases hf
  | cons g formats ih =>
    rw [entries, List.map_cons, Registry.raceAmong]
    by_cases hg : g = f
    · subst hg
      rw [h]
    · obtain ⟨e, he⟩ := honly g hg
      rw [he]
      exact ih ((List.mem_cons.mp hf).resolve_left (Ne.symm hg))

/-- A race that the only reader that could win it does not win is won by none. -/
theorem result_of_error (formats : List Format) (honly : OnlyReads f fileName t) {e : ReadError}
    (h : f.reader fileName t = .error e) :
    (Registry.raceAmong fileName t (entries formats)).winner = none
      ∧ (f ∈ formats →
        (f.label, e) ∈ (Registry.raceAmong fileName t (entries formats)).failures) := by
  induction formats with
  | nil => exact ⟨rfl, fun hf => absurd hf List.not_mem_nil⟩
  | cons g formats ih =>
    obtain ⟨hwinner, hfailures⟩ := ih
    rw [entries, List.map_cons, Registry.raceAmong]
    by_cases hg : g = f
    · subst hg
      rw [h]
      exact ⟨hwinner, fun _ => List.mem_cons_self⟩
    · obtain ⟨e', he'⟩ := honly g hg
      rw [he']
      exact ⟨hwinner, fun hf =>
        List.mem_cons_of_mem _ (hfailures ((List.mem_cons.mp hf).resolve_left (Ne.symm hg)))⟩

theorem readers_default : Registry.default.readers = entries all :=
  assign_eq_self (by decide : ((entries all).map (·.1)).Nodup)

/-- **A race on a written sheet is won by the reader of its format or by none**, whatever its
metadata hold, and by none only if that reader fails. -/
theorem race_written {keyLayout : Option Text} {score : Score} {name author transcriber : Text}
    {written : Written} (f : Format) (fileName : Option Text) (hname : score.name = .string name)
    (hauthor : score.author = .string author)
    (htranscriber : score.transcriber = .string transcriber)
    (h : f.writer keyLayout score = .ok written) :
    (∀ g, g ≠ f → ∃ e, g.reader fileName written.text = .error e)
      ∧ (∀ read, f.reader fileName written.text = .ok read →
        Registry.default.read fileName written.text = .ok read)
      ∧ ∀ e, f.reader fileName written.text = .error e →
        ∃ failures, Registry.default.read fileName written.text = .error (.noReader failures)
          ∧ (f.label, e) ∈ failures := by
  have honly : OnlyReads f fileName written.text := by
    cases f with
    | eventSheet =>
      obtain ⟨placement, -, h⟩ := bind_eq_ok h
      cases h
      exact onlyReads_eventSheet placement hname hauthor htranscriber
    | letterSheet =>
      obtain ⟨t, hwrite, h⟩ := bind_eq_ok h
      cases h
      exact onlyReads_letterSheet hwrite
    | cipherSheet =>
      cases h
      exact onlyReads_cipherSheet score
    | script =>
      obtain ⟨layout, -, h⟩ := bind_eq_ok h
      obtain ⟨placement, -, h⟩ := bind_eq_ok h
      cases h
      rw [Script.ofPlacement, hname]
      exact onlyReads_script name _
  have hmem : f ∈ all := by cases f <;> decide
  refine ⟨honly, ?_, ?_⟩
  · intro read hread
    rw [Registry.read, Registry.race, readers_default, Race.result, result_of_ok hmem honly hread]
  · intro e he
    obtain ⟨hwinner, hfailures⟩ := result_of_error all honly he
    refine ⟨_, ?_, hfailures hmem⟩
    rw [Registry.read, Registry.race, readers_default, Race.result, hwinner]

/-- A name that ends the comment it stands in, and has the first lines of a letter sheet behind. -/
theorem race_written_sample :
    let score : Score := {
      name := .string "*/\n<DontCopyThisLine> 480 0 16 a b\nA1 . B1"
      author := .string "[{}]"
      transcriber := .string "\r"
      keyNote := 3
      bpm := 90
      beats := [⟨⟨3, 4, by decide⟩, [0, 7]⟩] }
    let text := CipherSheet.write score
    (∀ g, g ≠ cipherSheet → ∃ e, g.reader none text = .error e)
      ∧ (∀ read, reader cipherSheet none text = .ok read →
        Registry.default.read none text = .ok read)
      ∧ ∀ e, reader cipherSheet none text = .error e →
        ∃ failures, Registry.default.read none text = .error (.noReader failures)
          ∧ (label cipherSheet, e) ∈ failures := by
  intro score text
  have hwrite : writer cipherSheet none score = .ok ⟨text, 0⟩ := rfl
  exact race_written cipherSheet none rfl rfl rfl hwrite

end Format

end SongSheet
