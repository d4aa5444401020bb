import SongSheet.Proofs.CipherSheet.Acceptance
import SongSheet.Proofs.CipherSheet.Comment
import SongSheet.Proofs.Score

/-!
# Headers of cipher sheets

The header of a cipher sheet is a comment, and the metadata stand in it as they are. They may hold
the marks of comments themselves, end the header early, open comments of their own and leave text
between them. But where the header ends for good, no comment is open any more, and from the line
after it on the music is as it was written: it has only got something in front
(`exists_music_write`). Music with something in front is none, so **a written sheet is read as the
music of its score or not at all** (`sameMusic_of_read_write`); and it is read with any metadata or
with none, if these do not hold the end of a comment (`played?_write`).
-/

set_option autoImplicit false

namespace SongSheet.CipherSheet

/-! ## 1. Comments that end before the music -/

/-- **At the end of a comment none is open**, whatever comes before: if one was, it ends there. -/
theorem exists_dropBlockComments_append {u : Text} (hu : u.head? ≠ some (.ofChar '*')) :
    ∀ (inside : Bool) (t : Text), t.getLast? ≠ some (.ofChar '/') →
      ∃ t', dropBlockComments inside (t ++ (("*/" : Text) ++ u)) = t' ++ dropBlockComments false u
  | true, [], _ => ⟨[], rfl⟩
  | false, [], _ => by
    refine ⟨"*/", ?_⟩
    show dropBlockComments false (.ofChar '*' :: .ofChar '/' :: u) = _
    rw [isPass_dropBlockComments.cons (.inl (by decide)), isPass_dropBlockComments.cons (.inr hu)]
    rfl
  | true, [c], _ => by
    have hnot : ¬ (c = '*' ∧ CodePoint.ofChar '*' = .ofChar '/') := fun h => absurd h.2 (by decide)
    refine ⟨[], ?_⟩
    show dropBlockComments true (c :: .ofChar '*' :: .ofChar '/' :: u) = _
    rw [dropBlockComments, if_pos rfl, if_neg hnot]
    rfl
  | false, [c], h => by
    obtain ⟨t', ht'⟩ := exists_dropBlockComments_append hu false [] (by simp)
    have hc : c ≠ '/' := by
      rintro rfl
      exact h rfl
    refine ⟨c :: t', ?_⟩
    rw [List.cons_append, isPass_dropBlockComments.cons (.inl hc), ht', List.cons_append]
  | true, c :: d :: t, h => by
    have htail : (d :: t).getLast? ≠ some (.ofChar '/') := fun ht => h (List.mem_getLast?_cons ht)
    rw [List.cons_append, List.cons_append, dropBlockComments, if_pos rfl]
    split
    case isTrue hend =>
      exact exists_dropBlockComments_append hu false t fun ht => htail (List.mem_getLast?_cons ht)
    case isFalse => exact exists_dropBlockComments_append hu true (d :: t) htail
  | false, c :: d :: t, h => by
    have htail : (d :: t).getLast? ≠ some (.ofChar '/') := fun ht => h (List.mem_getLast?_cons ht)
    rw [List.cons_append, List.cons_append, dropBlockComments, if_neg Bool.false_ne_true]
    split
    case isTrue hopen =>
      exact exists_dropBlockComments_append hu true t fun ht => htail (List.mem_getLast?_cons ht)
    case isFalse =>
      obtain ⟨t', ht'⟩ := exists_dropBlockComments_append hu false (d :: t) htail
      rw [List.cons_append] at ht'
      exact ⟨c :: t', by rw [ht', List.cons_append]⟩

/-- At the end of a line no line comment is open. -/
theorem exists_dropLineComments_append (inside : Bool) (t u : Text) :
    ∃ t', dropLineComments inside (t ++ .ofChar '\n' :: u)
      = t' ++ .ofChar '\n' :: dropLineComments false u := by
  induction t generalizing inside with
  | nil => exact ⟨[], if_pos rfl⟩
  | cons c t ih =>
    rw [List.cons_append, dropLineComments]
    obtain ⟨kept, hkept⟩ := ih false
    split
    · exact ⟨c :: kept, by rw [hkept, List.cons_append]⟩
    · split
      · exact ih true
      · exact ⟨c :: kept, by rw [hkept, List.cons_append]⟩

theorem music_cons {c : CodePoint} (hslash : c ≠ '/') (hblank : c.isBlank = false) (t : Text) :
    music (c :: t) = c :: music t := by
  rw [music, isPass_dropBlockComments.cons (.inl hslash),
    isPass_dropLineComments.cons (.inl hslash), Text.squeeze,
    List.filter_cons_of_pos (by simp [hblank])]
  rfl

theorem ne_slash_of_isBlank {c : CodePoint} (h : c.isBlank = true) : c ≠ '/' := by
  rintro rfl
  exact absurd h (by decide)

theorem music_cons_blank {c : CodePoint} (h : c.isBlank = true) (t : Text) :
    music (c :: t) = music t := by
  have hslash := ne_slash_of_isBlank h
  rw [music, isPass_dropBlockComments.cons (.inl hslash),
    isPass_dropLineComments.cons (.inl hslash), Text.squeeze, List.filter_cons_of_neg (by simp [h])]
  rfl

/-- What comes before the end of a comment and the end of its line only puts something in front of
the music. -/
theorem exists_music_append {t : Text} (h : t.getLast? ≠ some (.ofChar '/')) (u : Text) :
    ∃ before, music (t ++ (("*/" : Text) ++ .ofChar '\n' :: u)) = before ++ music u := by
  have hfeed : (CodePoint.ofChar '\n' :: u).head? ≠ some (.ofChar '*') := by
    rw [List.head?_cons]
    decide
  obtain ⟨t', ht'⟩ := exists_dropBlockComments_append hfeed false t h
  obtain ⟨before, hbefore⟩ := exists_dropLineComments_append false t' (dropBlockComments false u)
  refine ⟨Text.squeeze before, ?_⟩
  rw [music, ht', isPass_dropBlockComments.cons (.inl (by decide)), hbefore, Text.squeeze_append]
  rfl

/-! ## 2. The music of a written sheet -/

/-- The header up to the line that ends its comment. -/
def headerLines (score : Score) : Text :=
  ("/**\n * name: " : Text) ++ score.name.display
    ++ ("\n * author: " : Text) ++ score.author.display
    ++ ("\n * arrangedBy: \n * transcribedBy: " : Text) ++ score.transcriber.display

/-- What is written behind the header. -/
def musicLines (score : Score) : Text :=
  ("\n" : Text) ++ bracketText score ++ ("\n" : Text) ++ score.beats.flatMap beatText

theorem musicLines_eq_cons (score : Score) :
    ∃ t, musicLines score = .ofChar '\n' :: .ofChar '[' :: t := ⟨_, rfl⟩

theorem write_eq_lines (score : Score) :
    write score = headerLines score ++ ("\n */" : Text) ++ musicLines score := by
  have hend : ("\n */\n" : Text) = ("\n */" : Text) ++ ("\n" : Text) := by decide
  simp only [write, headerText, headerLines, musicLines, hend, List.append_assoc]

/-- **The music of a written sheet is that of its score, with something in front.** -/
theorem exists_music_write (score : Score) :
    ∃ before, music (write score) = before ++ music (musicLines score) := by
  have hlines : write score = (headerLines score ++ ("\n " : Text))
      ++ (("*/" : Text) ++ musicLines score) := by
    rw [write_eq_lines, List.append_assoc, List.append_assoc]
    rfl
  have hlast : (headerLines score ++ ("\n " : Text)).getLast? ≠ some (.ofChar '/') := by
    rw [List.getLast?_append_of_ne_nil _ (by decide)]
    decide
  obtain ⟨t, ht⟩ := musicLines_eq_cons score
  rw [hlines, ht, music_cons_blank (by decide)]
  exact exists_music_append hlast _

/-- Metadata that do not end the comment they stand in. -/
structure LeavesOpen (score : Score) : Prop where
  name : ¬ ("*/" : Text) <:+: score.name.display
  author : ¬ ("*/" : Text) <:+: score.author.display
  transcriber : ¬ ("*/" : Text) <:+: score.transcriber.display

theorem write_eq_comment (score : Score) :
    write score = ("/*" : Text) ++ headerBody score.name.display score.author.display
      score.transcriber.display ++ ("*/" : Text) ++ musicLines score := by
  rw [write, headerText_eq_display]
  simp only [musicLines, List.append_assoc]

/-- There is nothing in front if the metadata leave the comment open. -/
theorem music_write_of_open {score : Score} (h : LeavesOpen score) :
    music (write score) = music (musicLines score) := by
  have hopen := headerBody_open h.name h.author h.transcriber
  rw [write_eq_comment, music, dropBlockComments_comment hopen, ← music]

theorem exists_music_musicLines (score : Score) :
    ∃ t, music (musicLines score) = .ofChar '[' :: t := by
  obtain ⟨t, ht⟩ := musicLines_eq_cons score
  rw [ht, music_cons_blank (by decide), music_cons (by decide) (by decide)]
  exact ⟨_, rfl⟩

/-! ## 3. What is read of it -/

/-- What is read of a sheet depends on its music alone, but for the metadata. -/
theorem read_alike (fileName fileName' : Option Text) {t t' : Text} (h : music t = music t') :
    (∃ score score', read fileName t = .ok score ∧ read fileName' t' = .ok score'
      ∧ score.SameMusic score')
    ∨ ∃ e, read fileName t = .error e ∧ read fileName' t' = .error e := by
  unfold read
  rw [h]
  cases Music.ofText? (music t') with
  | none => exact .inr ⟨_, rfl, rfl⟩
  | some m =>
    dsimp only
    cases m.tempo with
    | error e => exact .inr ⟨e, rfl, rfl⟩
    | ok bpm =>
      cases m.toBeats with
      | error e => exact .inr ⟨e, rfl, rfl⟩
      | ok beats => exact .inl ⟨_, _, rfl, rfl, rfl, rfl, rfl⟩

theorem played?_read (fileName : Option Text) {t t' : Text} (h : music t = music t') :
    played? (read fileName t) = played? (read fileName t') := by
  rcases read_alike fileName fileName h with
    ⟨score, score', hread, hread', hsame⟩ | ⟨e, hread, hread'⟩
  · rw [hread, hread', played?, hsame.keyNote, hsame.bpm, hsame.beats]
    rfl
  · rw [hread, hread']

/-- A written sheet that is read has nothing in front of its music. -/
theorem music_write_of_read {score result : Score} {fileName : Option Text}
    (h : read fileName (write score) = .ok result) :
    music (write score) = music (musicLines score) := by
  obtain ⟨before, hbefore⟩ := exists_music_write score
  obtain ⟨t, ht⟩ := exists_music_musicLines score
  cases before with
  | nil => exact hbefore
  | cons c before =>
    have hread : ∃ m, Music.ofText? (music (write score)) = some m := by
      unfold read at h
      split at h
      case h_1 => cases h
      case h_2 m hm => exact ⟨m, hm⟩
    obtain ⟨m, hm⟩ := hread
    rw [hbefore, ht, List.cons_append] at hm
    exact absurd (by simp) (Music.not_mem_of_ofText? hm)

variable {score score' : Score}

theorem musicLines_congr (h : score.SameMusic score') : musicLines score = musicLines score' := by
  simp only [musicLines, bracketText, h.keyNote, h.bpm, h.beats]

/-- **Whatever the metadata are, a cipher sheet is read as the music that was written or not at
all.** -/
theorem sameMusic_of_read_write (h : score.SameMusic score') {fileName : Option Text}
    {result result' : Score} (hread : read fileName (write score) = .ok result)
    (hread' : read fileName (write score') = .ok result') : result.SameMusic result' := by
  have hmusic : music (write score) = music (write score') := by
    rw [music_write_of_read hread, music_write_of_read hread', musicLines_congr h]
  exact Score.sameMusic_of_played? (played?_read fileName hmusic) hread hread'

/-- **Metadata that leave the comment open change nothing that is played of a cipher sheet.** -/
theorem played?_write (fileName : Option Text) (h : score.SameMusic score')
    (hopen : LeavesOpen score) (hopen' : LeavesOpen score') :
    played? (read fileName (write score)) = played? (read fileName (write score')) := by
  refine played?_read fileName ?_
  rw [music_write_of_open hopen, music_write_of_open hopen', musicLines_congr h]

end SongSheet.CipherSheet
