import SongSheet.Proofs.Arrangement
import SongSheet.Proofs.Json.Number

/-!
# JSON values — written and read back

**What the compact writer wrote is read, and gives the value itself but for its numbers with a
point** (`read_render_tidy`), so long as no name stands twice in one object (`Tidy`): the reader
keeps such a name once. Without numbers with a point it is the value itself (`read_render`). The
text is one line, whatever its strings hold (`val_of_mem_render`).

The reader counts its steps. A value needs at most as many as it has code points, since every
step into an item, a field or a bracket reads one at least, so the bound is the length of the text
and the induction follows the writer through values, items and fields.
-/

set_option autoImplicit false

namespace SongSheet.Json

mutual

/-- A value in which no name stands twice in one object. -/
def Tidy : Json → Prop
  | .array items => TidyItems items
  | .object fields => (fields.map (·.1)).Nodup ∧ TidyFields fields
  | _ => True

/-- `Tidy` along the items of an array. -/
def TidyItems : List Json → Prop
  | [] => True
  | item :: items => Tidy item ∧ TidyItems items

/-- `Tidy` along the fields of an object. -/
def TidyFields : List (Text × Json) → Prop
  | [] => True
  | (_, value) :: fields => Tidy value ∧ TidyFields fields

end

mutual

/-- A tidy value without a number that is rounded. -/
def Plain : Json → Prop
  | .float _ => False
  | .array items => PlainItems items
  | .object fields => (fields.map (·.1)).Nodup ∧ PlainFields fields
  | _ => True

/-- `Plain` along the items of an array. -/
def PlainItems : List Json → Prop
  | [] => True
  | item :: items => Plain item ∧ PlainItems items

/-- `Plain` along the fields of an object. -/
def PlainFields : List (Text × Json) → Prop
  | [] => True
  | (_, value) :: fields => Plain value ∧ PlainFields fields

end

/-- What is read of a number with a point, as it is written. -/
def rereadFloat (x : Binary64) : Json :=
  match (word? (x.render floatLayout)).or (number? (x.render floatLayout)) with
  | some (v, _) => v
  | none => .null

mutual

/-- What is read of a value that was written. -/
def reread : Json → Json
  | .float x => rereadFloat x
  | .array items => .array (rereadItems items)
  | .object fields => .object (rereadFields fields)
  | v => v

/-- What is read of the items of an array. -/
def rereadItems : List Json → List Json
  | [] => []
  | item :: items => reread item :: rereadItems items

/-- What is read of the fields of an object. -/
def rereadFields : List (Text × Json) → List (Text × Json)
  | [] => []
  | (name, value) :: fields => (name, reread value) :: rereadFields fields

end

theorem map_rereadFields (fields : List (Text × Json)) :
    (rereadFields fields).map (·.1) = fields.map (·.1) := by
  induction fields with
  | nil => rfl
  | cons field fields ih => rw [rereadFields, List.map_cons, List.map_cons, ih]

mutual

/-- A plain value is read as it is. -/
theorem reread_of_plain : ∀ (v : Json), Plain v → Tidy v ∧ reread v = v
  | .null, _ => ⟨trivial, rfl⟩
  | .bool _, _ => ⟨trivial, rfl⟩
  | .int _, _ => ⟨trivial, rfl⟩
  | .float _, h => h.elim
  | .string _, _ => ⟨trivial, rfl⟩
  | .array items, h => by
    obtain ⟨htidy, hread⟩ := rereadItems_of_plain items h
    exact ⟨htidy, by rw [reread, hread]⟩
  | .object fields, h => by
    obtain ⟨htidy, hread⟩ := rereadFields_of_plain fields h.2
    exact ⟨⟨h.1, htidy⟩, by rw [reread, hread]⟩

theorem rereadItems_of_plain : ∀ (items : List Json), PlainItems items →
    TidyItems items ∧ rereadItems items = items
  | [], _ => ⟨trivial, rfl⟩
  | item :: items, h => by
    obtain ⟨htidy, hread⟩ := reread_of_plain item h.1
    obtain ⟨htidyItems, hreadItems⟩ := rereadItems_of_plain items h.2
    exact ⟨⟨htidy, htidyItems⟩, by rw [rereadItems, hread, hreadItems]⟩

theorem rereadFields_of_plain : ∀ (fields : List (Text × Json)), PlainFields fields →
    TidyFields fields ∧ rereadFields fields = fields
  | [], _ => ⟨trivial, rfl⟩
  | (name, v) :: fields, h => by
    obtain ⟨htidy, hread⟩ := reread_of_plain v h.1
    obtain ⟨htidyFields, hreadFields⟩ := rereadFields_of_plain fields h.2
    exact ⟨⟨htidy, htidyFields⟩, by rw [rereadFields, hread, hreadFields]⟩

end

/-- The items of an array as they stand between the brackets. -/
def itemsText (items : List Json) : Text := Text.join "," (renderItems .compact items)

/-- The fields of an object as they stand between the braces. -/
def fieldsText (fields : List (Text × Json)) : Text := Text.join "," (renderFields .compact fields)

/-! ## 1. How values start -/

theorem skipSpace_cons {c : CodePoint} (h : isSpace c = false) (t : Text) :
    skipSpace (c :: t) = c :: t := by
  rw [skipSpace, List.dropWhile_cons, if_neg (by simp [h])]

/-- A digit of ASCII is no mark of the notation. -/
theorem start_of_between {c : CodePoint} (h : c.between '0' '9' = true) :
    isSpace c = false ∧ c ≠ ']' ∧ c.val < 0x80 := by
  have hne : ∀ d : CodePoint, d.isDigit = false → c ≠ d := fun d hd =>
    CodePoint.ne_of_isDigit (CodePoint.isDigit_of_between h) hd
  have hval : c.val ≤ 0x39 := by
    rw [CodePoint.between, Bool.and_eq_true] at h
    exact of_decide_eq_true h.2
  refine ⟨?_, hne ']' (by decide), by omega⟩
  rw [isSpace, decide_eq_false (hne _ (by decide)), decide_eq_false (hne _ (by decide)),
    decide_eq_false (hne _ (by decide)), decide_eq_false (hne _ (by decide))]
  rfl

/-- A value starts with a code point of ASCII that is no blank and closes no bracket. -/
theorem render_eq_cons (v : Json) :
    ∃ c t, v.render .compact = c :: t ∧ isSpace c = false ∧ c ≠ ']' ∧ c.val < 0x80 := by
  cases v with
  | null => exact ⟨.ofChar 'n', _, rfl, by decide, by decide, by decide⟩
  | bool b => cases b <;> exact ⟨_, _, rfl, by decide, by decide, by decide⟩
  | int n =>
    obtain ⟨c, t, hcons, rfl | hbetween⟩ := ofInt_eq_cons n
    · exact ⟨.ofChar '-', t, hcons, by decide, by decide, by decide⟩
    · exact ⟨c, t, hcons, start_of_between hbetween⟩
  | float x =>
    have hwords : ∀ c ∈ ("-NI" : Text), isSpace c = false ∧ c ≠ ']' ∧ c.val < 0x80 := by decide
    obtain ⟨c, t, hcons, hword | hbetween⟩ := exists_render_cons x
    · exact ⟨c, t, hcons, hwords c hword⟩
    · exact ⟨c, t, hcons, start_of_between hbetween⟩
  | string t => exact ⟨.ofChar '"', _, rfl, by decide, by decide, by decide⟩
  | array items => exact ⟨.ofChar '[', _, rfl, by decide, by decide, by decide⟩
  | object fields => exact ⟨.ofChar '{', _, rfl, by decide, by decide, by decide⟩

theorem skipSpace_render (v : Json) (r : Text) :
    skipSpace (v.render .compact ++ r) = v.render .compact ++ r := by
  obtain ⟨c, t, hcons, hspace, -⟩ := render_eq_cons v
  rw [hcons, List.cons_append, skipSpace_cons hspace]

/-! ## 2. One step of the reader -/

/-- A value that starts with none of the marks is a word or a number. -/
theorem value_of_scalar {k : Nat} {c : CodePoint} {t : Text} {answer : Json × Text}
    (hquote : c ≠ '"') (hbrace : c ≠ '{') (hbracket : c ≠ '[')
    (h : (word? (c :: t)).or (number? (c :: t)) = some answer) :
    value (k + 1) (c :: t) = .ok answer := by
  rw [value, if_neg hquote, if_neg hbrace, if_neg hbracket]
  cases hword : word? (c :: t) with
  | some a =>
    rw [hword, Option.some_or] at h
    exact congrArg Except.ok (Option.some.inj h)
  | none =>
    rw [hword, Option.none_or] at h
    rw [h]

theorem value_of_quote (k : Nat) (t r : Text) :
    value (k + 1) (quote false t ++ r) = .ok (.string t, r) := by
  rw [quote, Text.enclose, List.cons_append, List.cons_append, List.append_assoc, value,
    if_pos rfl, List.singleton_append, stringBody_quote]
  rfl

theorem items_last {k : Nat} {t r : Text} {first : Json}
    (h : value k t = .ok (first, .ofChar ']' :: r)) : items (k + 1) t = .ok ([first], r) := by
  rw [items, h]
  rfl

theorem items_more {k : Nat} {t u r : Text} {first : Json} {others : List Json}
    (h : value k t = .ok (first, .ofChar ',' :: u)) (hskip : skipSpace u = u)
    (hu : items k u = .ok (others, r)) : items (k + 1) t = .ok (first :: others, r) := by
  rw [items, h]
  show (items k (skipSpace u) >>= _ : Except Refusal (List Json × Text)) = _
  rw [hskip, hu]
  rfl

theorem members_last {k : Nat} {name t r : Text} {first : Json} (hskip : skipSpace t = t)
    (h : value k t = .ok (first, .ofChar '}' :: r)) :
    members (k + 1) (quote false name ++ (":" : Text) ++ t) = .ok ([(name, first)], r) := by
  rw [quote, Text.enclose, List.cons_append, List.cons_append, List.cons_append, List.append_assoc,
    List.append_assoc, members, if_neg (by simp), List.singleton_append, stringBody_quote]
  show (value k (skipSpace t) >>= _ : Except Refusal (List (Text × Json) × Text)) = _
  rw [hskip, h]
  rfl

theorem members_more {k : Nat} {name t u r : Text} {first : Json} {others : List (Text × Json)}
    (hskip : skipSpace t = t) (h : value k t = .ok (first, .ofChar ',' :: u))
    (hmore : skipSpace u = u) (hu : members k u = .ok (others, r)) :
    members (k + 1) (quote false name ++ (":" : Text) ++ t) = .ok ((name, first) :: others, r) := by
  rw [quote, Text.enclose, List.cons_append, List.cons_append, List.cons_append, List.append_assoc,
    List.append_assoc, members, if_neg (by simp), List.singleton_append, stringBody_quote]
  show (value k (skipSpace t) >>= _ : Except Refusal (List (Text × Json) × Text)) = _
  rw [hskip, h]
  show (members k (skipSpace u) >>= _ : Except Refusal (List (Text × Json) × Text)) = _
  rw [hmore, hu]
  rfl

/-! ## 3. The whole value -/

theorem stops_cons {c : CodePoint} (h : c.between '0' '9' = false ∧ c ≠ '.' ∧ c ≠ 'e' ∧ c ≠ 'E')
    (t : Text) : Stops (c :: t) := by
  intro d hd
  obtain rfl : c = d := Option.some.inj hd
  exact h

theorem itemsText_cons (item next : Json) (items : List Json) :
    itemsText (item :: next :: items)
      = item.render .compact ++ ("," : Text) ++ itemsText (next :: items) := rfl

theorem fieldsText_cons (name : Text) (v : Json) (field : Text × Json)
    (fields : List (Text × Json)) :
    fieldsText ((name, v) :: field :: fields)
      = quote false name ++ (":" : Text) ++ v.render .compact ++ ("," : Text)
        ++ fieldsText (field :: fields) := rfl

theorem itemsText_eq_append (item : Json) (items : List Json) :
    ∃ t, itemsText (item :: items) = item.render .compact ++ t := by
  cases items with
  | nil => exact ⟨[], (List.append_nil _).symm⟩
  | cons next items => exact ⟨_, (itemsText_cons item next items).trans (List.append_assoc _ _ _)⟩

theorem fieldsText_eq_cons (field : Text × Json) (fields : List (Text × Json)) :
    ∃ t, fieldsText (field :: fields) = .ofChar '"' :: t := by
  cases fields with
  | nil => exact ⟨_, rfl⟩
  | cons next fields => exact ⟨_, fieldsText_cons field.1 field.2 next fields⟩

theorem skipSpace_itemsText (item : Json) (items : List Json) (r : Text) :
    skipSpace (itemsText (item :: items) ++ r) = itemsText (item :: items) ++ r := by
  obtain ⟨t, hfirst⟩ := itemsText_eq_append item items
  rw [hfirst, List.append_assoc, skipSpace_render]

theorem skipSpace_fieldsText (field : Text × Json) (fields : List (Text × Json)) (r : Text) :
    skipSpace (fieldsText (field :: fields) ++ r) = fieldsText (field :: fields) ++ r := by
  obtain ⟨t, hfirst⟩ := fieldsText_eq_cons field fields
  rw [hfirst, List.cons_append, skipSpace_cons (by decide)]

theorem value_of_int (k : Nat) {n : Int} {r : Text} (hr : Stops r) :
    value (k + 1) (Text.ofInt n ++ r) = .ok (.int n, r) := by
  have hread : (word? (Text.ofInt n ++ r)).or (number? (Text.ofInt n ++ r)) = some (.int n, r) := by
    rw [word?_ofInt, Option.none_or, number?_ofInt hr]
  obtain ⟨c, t, hcons, rfl | hbetween⟩ := ofInt_eq_cons n
  · rw [hcons, List.cons_append] at hread ⊢
    exact value_of_scalar (by decide) (by decide) (by decide) hread
  · have hdigit := CodePoint.isDigit_of_between hbetween
    rw [hcons, List.cons_append] at hread ⊢
    exact value_of_scalar (CodePoint.ne_of_isDigit hdigit (by decide))
      (CodePoint.ne_of_isDigit hdigit (by decide)) (CodePoint.ne_of_isDigit hdigit (by decide))
      hread

theorem value_of_float (k : Nat) (x : Binary64) {r : Text} (hr : Stops r) :
    value (k + 1) (x.render floatLayout ++ r) = .ok (rereadFloat x, r) := by
  obtain ⟨y, hread⟩ := exists_read_render x
  have halone := hread [] nofun
  rw [List.append_nil] at halone
  have hvalue : rereadFloat x = .float y := by rw [rereadFloat, halone]
  have hread := hread r hr
  have hwords : ∀ c ∈ ("-NI" : Text), c ≠ '"' ∧ c ≠ '{' ∧ c ≠ '[' := by decide
  rw [hvalue]
  obtain ⟨c, t, hcons, hword | hbetween⟩ := exists_render_cons x
  · obtain ⟨hquote, hbrace, hbracket⟩ := hwords c hword
    rw [hcons, List.cons_append] at hread ⊢
    exact value_of_scalar hquote hbrace hbracket hread
  · have hdigit := CodePoint.isDigit_of_between hbetween
    rw [hcons, List.cons_append] at hread ⊢
    exact value_of_scalar (CodePoint.ne_of_isDigit hdigit (by decide))
      (CodePoint.ne_of_isDigit hdigit (by decide)) (CodePoint.ne_of_isDigit hdigit (by decide))
      hread

theorem value_of_array {k : Nat} {item : Json} {items found : List Json} {r : Text}
    (h : Json.items k (itemsText (item :: items) ++ (']' : CodePoint) :: r) = .ok (found, r)) :
    value (k + 1) (render .compact (.array (item :: items)) ++ r) = .ok (.array found, r) := by
  have hopen : render .compact (.array (item :: items)) ++ r
      = .ofChar '[' :: (itemsText (item :: items) ++ (']' : CodePoint) :: r) := by
    rw [render, Text.enclose, List.cons_append, List.cons_append, List.append_assoc]
    rfl
  obtain ⟨t, hfirst⟩ := itemsText_eq_append item items
  obtain ⟨c, u, hcons, -, hclose, -⟩ := render_eq_cons item
  have hmore : Text.after? "]" (itemsText (item :: items) ++ (']' : CodePoint) :: r) = none := by
    rw [hfirst, hcons]
    exact after?_of_ne hclose.symm _ _
  rw [hopen, value, if_neg (by decide), if_neg (by decide), if_pos rfl]
  simp only [skipSpace_itemsText, hmore, h]
  rfl

theorem value_of_object {k : Nat} {field : Text × Json} {fields found : List (Text × Json)}
    {r : Text} (hnodup : (found.map (·.1)).Nodup)
    (h : members k (fieldsText (field :: fields) ++ ('}' : CodePoint) :: r) = .ok (found, r)) :
    value (k + 1) (render .compact (.object (field :: fields)) ++ r) = .ok (.object found, r) := by
  have hopen : render .compact (.object (field :: fields)) ++ r
      = .ofChar '{' :: (fieldsText (field :: fields) ++ ('}' : CodePoint) :: r) := by
    rw [render, Text.enclose, List.cons_append, List.cons_append, List.append_assoc]
    rfl
  obtain ⟨t, hfirst⟩ := fieldsText_eq_cons field fields
  have hmore : Text.after? "\x7d" (fieldsText (field :: fields) ++ ('}' : CodePoint) :: r)
      = none := by
    rw [hfirst]
    exact after?_of_ne (by decide) _ _
  rw [hopen, value, if_neg (by decide), if_pos rfl]
  simp only [skipSpace_fieldsText, hmore, h]
  exact congrArg (fun fields => Except.ok (Json.object fields, r)) (assign_eq_self hnodup)

mutual

/-- **A value is read back**, whatever follows it that a number does not go on into. -/
theorem value_render : ∀ (v : Json), Tidy v → ∀ {k : Nat} {r : Text},
    (v.render .compact).length ≤ k → Stops r → value k (v.render .compact ++ r) = .ok (reread v, r)
  | .null, _, k + 1, r, _, _ => rfl
  | .bool true, _, k + 1, r, _, _ => rfl
  | .bool false, _, k + 1, r, _, _ => rfl
  | .int n, _, k + 1, r, _, hr => value_of_int k hr
  | .float x, _, k + 1, r, _, hr => value_of_float k x hr
  | .string t, _, k + 1, r, _, _ => value_of_quote k t r
  | .array [], _, k + 1, r, _, _ => rfl
  | .array (item :: items), h, k + 1, r, hk, _ => by
    have hlength : (itemsText (item :: items)).length < k := by
      rw [render, Text.enclose, List.cons_append, List.length_cons, List.length_append] at hk
      exact Nat.lt_of_succ_le (Nat.le_of_succ_le_succ hk)
    exact value_of_array (items_render (item :: items) (List.cons_ne_nil _ _) h hlength r)
  | .object [], _, k + 1, r, _, _ => rfl
  | .object (field :: fields), h, k + 1, r, hk, _ => by
    have hlength : (fieldsText (field :: fields)).length < k := by
      rw [render, Text.enclose, List.cons_append, List.length_cons, List.length_append] at hk
      exact Nat.lt_of_succ_le (Nat.le_of_succ_le_succ hk)
    have hnodup : ((rereadFields (field :: fields)).map (·.1)).Nodup := by
      rw [map_rereadFields]
      exact h.1
    exact value_of_object hnodup
      (members_render (field :: fields) (List.cons_ne_nil _ _) h.2 hlength r)
  | v, _, 0, r, hk, _ => by
    -- No text of a value is empty, so there is always a step to take.
    obtain ⟨c, t, hcons, -⟩ := render_eq_cons v
    rw [hcons] at hk
    cases hk

/-- The items of an array are read back up to its closing bracket. -/
theorem items_render : ∀ (vs : List Json), vs ≠ [] → TidyItems vs → ∀ {k : Nat},
    (itemsText vs).length < k → ∀ r : Text,
    items k (itemsText vs ++ (']' : CodePoint) :: r) = .ok (rereadItems vs, r)
  | [], hne, _, _, _, _ => absurd rfl hne
  | [item], _, h, k + 1, hk, r =>
    items_last (value_render item h.1 (Nat.le_of_lt_succ hk) (stops_cons (by decide) r))
  | item :: next :: rest, _, h, k + 1, hk, r => by
    have hopen : itemsText (item :: next :: rest) ++ (']' : CodePoint) :: r
        = item.render .compact
          ++ (',' : CodePoint) :: (itemsText (next :: rest) ++ (']' : CodePoint) :: r) := by
      rw [itemsText_cons, List.append_assoc, List.append_assoc]
      rfl
    rw [itemsText_cons, List.length_append, List.length_append] at hk
    have hseparator : ("," : Text).length = 1 := rfl
    rw [hopen]
    exact items_more (value_render item h.1 (by omega) (stops_cons (by decide) _))
      (skipSpace_itemsText next rest _)
      (items_render (next :: rest) (List.cons_ne_nil _ _) h.2 (by omega) r)

/-- The fields of an object are read back up to its closing brace. -/
theorem members_render : ∀ (fields : List (Text × Json)), fields ≠ [] → TidyFields fields →
    ∀ {k : Nat}, (fieldsText fields).length < k → ∀ r : Text,
    members k (fieldsText fields ++ ('}' : CodePoint) :: r) = .ok (rereadFields fields, r)
  | [], hne, _, _, _, _ => absurd rfl hne
  | [(name, v)], _, h, k + 1, hk, r => by
    have hopen : fieldsText [(name, v)] ++ ('}' : CodePoint) :: r
        = quote false name ++ (":" : Text) ++ (v.render .compact ++ ('}' : CodePoint) :: r) :=
      List.append_assoc _ _ _
    have hlength : (fieldsText [(name, v)]).length
        = (quote false name ++ (":" : Text)).length + (v.render .compact).length :=
      List.length_append
    rw [hopen]
    exact members_last (skipSpace_render v _)
      (value_render v h.1 (by omega) (stops_cons (by decide) r))
  | (name, v) :: next :: rest, _, h, k + 1, hk, r => by
    have hopen : fieldsText ((name, v) :: next :: rest) ++ ('}' : CodePoint) :: r
        = quote false name ++ (":" : Text) ++ (v.render .compact
          ++ (',' : CodePoint) :: (fieldsText (next :: rest) ++ ('}' : CodePoint) :: r)) := by
      rw [fieldsText_cons, List.append_assoc, List.append_assoc, List.append_assoc]
      rfl
    rw [fieldsText_cons, List.length_append, List.length_append, List.length_append] at hk
    have hseparator : ("," : Text).length = 1 := rfl
    rw [hopen]
    exact members_more (skipSpace_render v _)
      (value_render v h.1 (by omega) (stops_cons (by decide) _))
      (skipSpace_fieldsText next rest _)
      (members_render (next :: rest) (List.cons_ne_nil _ _) h.2 (by omega) r)

end

/-- **What the compact writer wrote is read**, as the value itself but for its numbers with a
point. -/
theorem read_render_tidy {v : Json} (h : Tidy v) :
    Json.read (v.render .compact) = .ok (reread v) := by
  have hvalue : value (2 * (v.render .compact).length + 2) (skipSpace (v.render .compact))
      = .ok (reread v, []) := by
    have hskip := skipSpace_render v []
    have hread := value_render v h (k := 2 * (v.render .compact).length + 2) (r := []) (by omega)
      nofun
    rw [List.append_nil] at hskip hread
    rw [hskip, hread]
  have hdocument : document (v.render .compact) = .ok (reread v) := by
    obtain ⟨c, t, hcons, -, -, hval⟩ := render_eq_cons v
    rw [hcons] at hvalue ⊢
    rw [document, if_neg (by omega), hvalue]
    rfl
  rw [Json.read, hdocument]

/-- **Reading what the compact writer wrote gives the value itself.** -/
theorem read_render {v : Json} (h : Plain v) : Json.read (v.render .compact) = .ok v := by
  obtain ⟨htidy, hread⟩ := reread_of_plain v h
  rw [read_render_tidy htidy, hread]

/-! ## 4. One line -/

mutual

/-- **What the compact writer writes holds no control characters**: a document is one line. -/
theorem val_of_mem_render : ∀ (v : Json), Plain v → ∀ {c : CodePoint}, c ∈ v.render .compact →
    0x20 ≤ c.val
  | .null, _, c, hc => (by decide : ∀ c ∈ render .compact .null, 0x20 ≤ c.val) c hc
  | .bool true, _, c, hc => (by decide : ∀ c ∈ render .compact (.bool true), 0x20 ≤ c.val) c hc
  | .bool false, _, c, hc => (by decide : ∀ c ∈ render .compact (.bool false), 0x20 ≤ c.val) c hc
  | .int n, _, c, hc => (Text.ascii_of_mem_ofInt hc).1
  | .float x, h, _, _ => absurd h (by simp [Plain])
  | .string t, _, c, hc => (mem_quote hc).1
  | .array items, h, c, hc => by
    rcases List.mem_append.mp hc with hc | hc
    · rcases List.mem_cons.mp hc with rfl | hc
      · decide
      · exact val_of_mem_itemsText items h hc
    · rw [List.mem_singleton.mp hc]
      decide
  | .object fields, h, c, hc => by
    rcases List.mem_append.mp hc with hc | hc
    · rcases List.mem_cons.mp hc with rfl | hc
      · decide
      · exact val_of_mem_fieldsText fields h.2 hc
    · rw [List.mem_singleton.mp hc]
      decide

theorem val_of_mem_itemsText : ∀ (items : List Json), PlainItems items → ∀ {c : CodePoint},
    c ∈ itemsText items → 0x20 ≤ c.val
  | [], _, c, hc => absurd hc List.not_mem_nil
  | [item], h, c, hc => val_of_mem_render item h.1 hc
  | item :: next :: rest, h, c, hc => by
    rw [itemsText_cons] at hc
    rcases List.mem_append.mp hc with hc | hc
    · rcases List.mem_append.mp hc with hc | hc
      · exact val_of_mem_render item h.1 hc
      · rw [List.mem_singleton.mp hc]
        decide
    · exact val_of_mem_itemsText (next :: rest) h.2 hc

theorem val_of_mem_fieldsText : ∀ (fields : List (Text × Json)), PlainFields fields →
    ∀ {c : CodePoint}, c ∈ fieldsText fields → 0x20 ≤ c.val
  | [], _, c, hc => absurd hc List.not_mem_nil
  | [(name, v)], h, c, hc => by
    rcases List.mem_append.mp hc with hc | hc
    · rcases List.mem_append.mp hc with hc | hc
      · exact (mem_quote hc).1
      · rw [List.mem_singleton.mp hc]
        decide
    · exact val_of_mem_render v h.1 hc
  | (name, v) :: next :: rest, h, c, hc => by
    have hmarks : ∀ d ∈ (":," : Text), 0x20 ≤ d.val := by decide
    rw [fieldsText_cons] at hc
    simp only [List.mem_append] at hc
    rcases hc with (((hc | hc) | hc) | hc) | hc
    · exact (mem_quote hc).1
    · exact hmarks c (List.mem_cons.mpr (.inl (List.mem_singleton.mp hc)))
    · exact val_of_mem_render v h.1 hc
    · exact hmarks c (List.mem_cons_of_mem _ hc)
    · exact val_of_mem_fieldsText (next :: rest) h.2 hc

end

end SongSheet.Json
