import SongSheet.Proofs.Json.RoundTrip
import SongSheet.Proofs.Traversal

/-!
# JSON values that were read

A text may give one name twice in an object; the reader keeps the name once. So **every value that
was read is tidy** (`tidy_of_read`), however deep its objects are, and can be written and read
again.
-/

set_option autoImplicit false

namespace SongSheet.Json

theorem tidyFields_iff {fields : List (Text × Json)} :
    TidyFields fields ↔ ∀ field ∈ fields, Tidy field.2 := by
  induction fields with
  | nil => simp [TidyFields]
  | cons field fields ih => rw [List.forall_mem_cons, ← ih, TidyFields]

/-- An object keeps a name once. -/
theorem tidy_ofFields {fields : List (Text × Json)} (h : TidyFields fields) :
    Tidy (ofFields fields) := by
  obtain ⟨hnodup, hmem⟩ := assign_spec fields
  rw [tidyFields_iff] at h
  exact ⟨hnodup, tidyFields_iff.mpr fun field hfield => h field (hmem field hfield)⟩

theorem tidy_of_word? {t rest : Text} {v : Json} (h : word? t = some (v, rest)) : Tidy v := by
  obtain ⟨entry, hentry, h⟩ := List.exists_of_findSome?_eq_some h
  obtain ⟨rest, -, h⟩ := Option.map_eq_some_iff.mp h
  cases h
  simp only [List.mem_cons, List.not_mem_nil, or_false] at hentry
  rcases hentry with rfl | rfl | rfl | rfl | rfl | rfl <;> trivial

theorem tidy_of_number? {t rest : Text} {v : Json} (h : number? t = some (v, rest)) : Tidy v := by
  revert h
  fun_cases number? t with
  | case1 => exact nofun
  | case2 =>
    -- with an exponent
    intro h
    cases h
    trivial
  | case3 =>
    -- an integer
    intro h
    cases h
    trivial
  | case4 =>
    -- with a fraction only
    intro h
    cases h
    trivial

/-! ## One step of the reader

What a step finds is tidy if what the steps after it find is. -/

section

variable {k : Nat} {t rest : Text}

theorem tidy_of_value {v : Json}
    (hitems : ∀ {t rest : Text} {vs : List Json}, items k t = .ok (vs, rest) → TidyItems vs)
    (hmembers : ∀ {t rest : Text} {fields : List (Text × Json)},
      members k t = .ok (fields, rest) → TidyFields fields)
    (h : value (k + 1) t = .ok (v, rest)) : Tidy v := by
  cases t with
  | nil => cases h
  | cons c t =>
    rw [value] at h
    split_ifs at h
    · obtain ⟨⟨s, rest⟩, -, h⟩ := map_eq_ok h
      cases h
      trivial
    · dsimp only at h
      split at h
      · cases h
        exact ⟨List.nodup_nil, trivial⟩
      · obtain ⟨⟨fields, rest⟩, hfields, h⟩ := map_eq_ok h
        cases h
        exact tidy_ofFields (hmembers hfields)
    · dsimp only at h
      split at h
      · cases h
        trivial
      · obtain ⟨⟨vs, rest⟩, hvs, h⟩ := map_eq_ok h
        cases h
        exact hitems hvs
    · split at h
      case h_1 answer hword =>
        cases h
        exact tidy_of_word? hword
      case h_2 =>
        split at h
        case h_1 answer hnumber =>
          cases h
          exact tidy_of_number? hnumber
        case h_2 => cases h

theorem tidy_of_items {vs : List Json}
    (hvalue : ∀ {t rest : Text} {v : Json}, value k t = .ok (v, rest) → Tidy v)
    (hitems : ∀ {t rest : Text} {vs : List Json}, items k t = .ok (vs, rest) → TidyItems vs)
    (h : items (k + 1) t = .ok (vs, rest)) : TidyItems vs := by
  rw [items] at h
  obtain ⟨⟨first, u⟩, hfirst, h⟩ := bind_eq_ok h
  dsimp only at h
  split at h
  · cases h
    exact ⟨hvalue hfirst, trivial⟩
  · obtain ⟨⟨others, rest⟩, hothers, h⟩ := bind_eq_ok h
    cases h
    exact ⟨hvalue hfirst, hitems hothers⟩
  · cases h

theorem tidy_of_members {fields : List (Text × Json)}
    (hvalue : ∀ {t rest : Text} {v : Json}, value k t = .ok (v, rest) → Tidy v)
    (hmembers : ∀ {t rest : Text} {fields : List (Text × Json)},
      members k t = .ok (fields, rest) → TidyFields fields)
    (h : members (k + 1) t = .ok (fields, rest)) : TidyFields fields := by
  cases t with
  | nil => cases h
  | cons c t =>
    rw [members] at h
    split_ifs at h
    obtain ⟨⟨name, u⟩, -, h⟩ := bind_eq_ok h
    dsimp only at h
    split at h
    · cases h
    · obtain ⟨⟨first, w⟩, hfirst, h⟩ := bind_eq_ok h
      dsimp only at h
      split at h
      · cases h
        exact ⟨hvalue hfirst, trivial⟩
      · obtain ⟨⟨others, rest⟩, hothers, h⟩ := bind_eq_ok h
        cases h
        exact ⟨hvalue hfirst, hmembers hothers⟩
      · cases h

end

/-! ## The whole reader -/

/-- What the reader finds is tidy, however many steps it takes. -/
theorem tidy_of_reader (k : Nat) :
    (∀ {t rest : Text} {v : Json}, value k t = .ok (v, rest) → Tidy v)
      ∧ (∀ {t rest : Text} {vs : List Json}, items k t = .ok (vs, rest) → TidyItems vs)
      ∧ ∀ {t rest : Text} {fields : List (Text × Json)}, members k t = .ok (fields, rest) →
        TidyFields fields := by
  induction k with
  | zero => exact ⟨nofun, nofun, nofun⟩
  | succ k ih =>
    obtain ⟨hvalue, hitems, hmembers⟩ := ih
    exact ⟨tidy_of_value hitems hmembers, tidy_of_items hvalue hitems,
      tidy_of_members hvalue hmembers⟩

/-- **Every value that was read is tidy.** -/
theorem tidy_of_read {t : Text} {v : Json} (h : Json.read t = .ok v) : Tidy v := by
  rw [Json.read] at h
  split at h
  case h_2 => cases h
  case h_1 found hdocument =>
    cases h
    cases t with
    | nil => cases hdocument
    | cons c t =>
      rw [document] at hdocument
      split_ifs at hdocument
      obtain ⟨⟨found, rest⟩, hvalue, hdocument⟩ := bind_eq_ok hdocument
      dsimp only at hdocument
      split_ifs at hdocument
      cases hdocument
      exact (tidy_of_reader _).1 hvalue

end SongSheet.Json
