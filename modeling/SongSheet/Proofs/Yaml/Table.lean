import SongSheet.Proofs.Traversal
import SongSheet.Yaml

/-!
# Tables and their keys

Keys that are worth the same are one key, whatever scalars they are, but a text is the same key as
itself only (`isSameKey_text`). So a table is looked up by name as if its keys were compared for
equality, and putting in one entry is seen under one name (`at?_put`).

A table that is read from a text has every key once, and so have the tables in it
(`isMapping_of_read`). Entries that are written down anywhere else may repeat a key.
-/

set_option autoImplicit false

namespace SongSheet.Yaml

/-! ## 1. Names as keys -/

namespace Scalar

theorem isSameKey_text {key : Scalar} {name : Text} :
    key.isSameKey (.text name) = true ↔ key = .text name := by
  cases key with
  | float x => cases hx : x.toInt? <;> simp [isSameKey, toJson?, Json.sameValue, Json.worth?, hx]
  | _ => simp [isSameKey, toJson?, Json.sameValue, Json.worth?]

theorem text_isSameKey {key : Scalar} {name : Text} :
    (Scalar.text name).isSameKey key = true ↔ key = .text name := by
  cases key with
  | float x => cases hx : x.toInt? <;> simp [isSameKey, toJson?, Json.sameValue, Json.worth?, hx]
  | text t => simp [isSameKey, toJson?, Json.sameValue, Json.worth?, eq_comm]
  | _ => simp [isSameKey, toJson?, Json.sameValue, Json.worth?]

end Scalar

namespace Table

theorem at?_cons (k : Scalar) (v : Value) (t : Table) (name : Text) :
    Table.at? (.text name) ((k, v) :: t) = if k = .text name then some v else t.at? name := by
  rw [at?, List.find?_cons]
  split
  case h_1 h => rw [if_pos (Scalar.isSameKey_text.mp h), Option.map_some]
  case h_2 h =>
    rw [if_neg fun hk => Bool.false_ne_true (h.symm.trans (Scalar.isSameKey_text.mpr hk))]
    rfl

/-- **An entry that is put into a table is seen under its own name only.** -/
theorem at?_put (t : Table) (key : Scalar) (value : Value) (name : Text) :
    (t.put key value).at? name = if key = .text name then some value else t.at? name := by
  induction t with
  | nil => rw [put, at?_cons]
  | cons entry t ih =>
    obtain ⟨k, v⟩ := entry
    rw [put]
    split
    case isTrue hsame =>
      rw [at?_cons, at?_cons]
      -- The two keys are the same one, so that one is the name if the other is.
      have hname : k = .text name ↔ key = .text name := by
        constructor
        · rintro rfl
          exact Scalar.text_isSameKey.mp hsame
        · rintro rfl
          exact Scalar.isSameKey_text.mp hsame
      by_cases h : key = .text name
      · rw [if_pos (hname.mpr h), if_pos h]
      · rw [if_neg (mt hname.mp h), if_neg h, if_neg (mt hname.mp h)]
    case isFalse hsame =>
      rw [at?_cons, at?_cons, ih]
      by_cases hk : k = .text name
      · have hkey : key ≠ .text name := by
          rintro rfl
          exact hsame (Scalar.isSameKey_text.mpr hk)
        rw [if_pos hk, if_neg hkey, if_pos hk]
      · rw [if_neg hk, if_neg hk]

/-! ## 2. Keys that come once -/

/-- Every key comes once. -/
def Distinct (t : Table) : Prop := t.Pairwise fun a b => a.1.isSameKey b.1 = false

/-- What is in a table after one entry is put into it. -/
theorem of_mem_put {t : Table} {key : Scalar} {value : Value} {e : Scalar × Value}
    (h : e ∈ t.put key value) :
    (e.1 = key ∨ ∃ old ∈ t, old.1 = e.1) ∧ (e.2 = value ∨ e ∈ t) := by
  induction t with
  | nil =>
    obtain rfl := List.mem_singleton.mp h
    exact ⟨.inl rfl, .inl rfl⟩
  | cons entry t ih =>
    obtain ⟨k, v⟩ := entry
    rw [put] at h
    split at h
    case isTrue =>
      rcases List.mem_cons.mp h with rfl | h
      · exact ⟨.inr ⟨(k, v), List.mem_cons_self, rfl⟩, .inl rfl⟩
      · have hmem : e ∈ (k, v) :: t := List.mem_cons_of_mem _ h
        exact ⟨.inr ⟨e, hmem, rfl⟩, .inr hmem⟩
    case isFalse =>
      rcases List.mem_cons.mp h with rfl | h
      · exact ⟨.inr ⟨(k, v), List.mem_cons_self, rfl⟩, .inr List.mem_cons_self⟩
      · obtain ⟨hkey, hvalue⟩ := ih h
        refine ⟨hkey.imp_right ?_, hvalue.imp_right (List.mem_cons_of_mem _)⟩
        rintro ⟨old, hold, heq⟩
        exact ⟨old, List.mem_cons_of_mem _ hold, heq⟩

theorem Distinct.put {t : Table} (h : t.Distinct) (key : Scalar) (value : Value) :
    (t.put key value).Distinct := by
  induction t with
  | nil => exact List.pairwise_singleton ..
  | cons entry t ih =>
    obtain ⟨k, v⟩ := entry
    obtain ⟨hfirst, hrest⟩ := List.pairwise_cons.mp h
    rw [Table.put]
    split
    case isTrue => exact List.pairwise_cons.mpr ⟨hfirst, hrest⟩
    case isFalse hsame =>
      refine List.pairwise_cons.mpr ⟨fun e he => ?_, ih hrest⟩
      rcases (of_mem_put he).1 with heq | ⟨old, hold, heq⟩
      · rw [heq]
        exact Bool.eq_false_iff.mpr hsame
      · rw [← heq]
        exact hfirst old hold

/-- Entries put in one after the other keep the keys apart, and no value comes from elsewhere. -/
theorem Distinct.foldl_put {done : Table} (h : done.Distinct) (entries : List (Scalar × Value)) :
    let t := entries.foldl (fun (done : Table) entry => done.put entry.1 entry.2) done
    t.Distinct ∧ ∀ e ∈ t, e ∈ done ∨ ∃ e' ∈ entries, e'.2 = e.2 := by
  induction entries generalizing done with
  | nil => exact ⟨h, fun e he => .inl he⟩
  | cons entry entries ih =>
    obtain ⟨hdistinct, hmem⟩ := ih (h.put entry.1 entry.2)
    refine ⟨hdistinct, fun e he => ?_⟩
    rcases hmem e he with hput | ⟨e', he', heq⟩
    · rcases (of_mem_put hput).2 with hvalue | hold
      · exact .inr ⟨entry, List.mem_cons_self, hvalue.symm⟩
      · exact .inl hold
    · exact .inr ⟨e', List.mem_cons_of_mem _ he', heq⟩

theorem distinct_ofEntries (entries : List (Scalar × Value)) :
    (ofEntries entries).Distinct ∧ ∀ e ∈ ofEntries entries, ∃ e' ∈ entries, e'.2 = e.2 := by
  obtain ⟨hdistinct, hmem⟩ := Distinct.foldl_put .nil entries
  exact ⟨hdistinct, fun e he => (hmem e he).resolve_left List.not_mem_nil⟩

instance (t : Table) : Decidable t.Distinct :=
  inferInstanceAs (Decidable (List.Pairwise (fun a b => a.1.isSameKey b.1 = false) t))

end Table

/-- The entries of a value; only a table has any. -/
def Value.entries : Value → Table
  | .table entries => entries
  | _ => []

/-- Every key comes once, in a table and in the tables that are its values. -/
structure Table.IsMapping (t : Table) : Prop where
  keys : t.Distinct
  inner : ∀ e ∈ t, Table.Distinct e.2.entries

instance (t : Table) : Decidable t.IsMapping :=
  decidable_of_iff (t.Distinct ∧ ∀ e ∈ t, Table.Distinct e.2.entries)
    ⟨fun h => ⟨h.1, h.2⟩, fun h => ⟨h.keys, h.inner⟩⟩

/-! ## 3. Tables that are read -/

namespace Node

theorem scalarMeaning_ne_table (depth : Nat) (kind : Kind) (node : Node) (t : Table) :
    (scalarMeaning depth kind node).value ≠ .table t := by
  rw [scalarMeaning.eq_def]
  dsimp only
  split <;> exact nofun

theorem misfit_ne_table (depth : Nat) (kind : Kind) (t : Table) :
    (misfit depth kind).value ≠ .table t := by
  rw [misfit]
  split <;> exact nofun

theorem of_mem_entryMeanings {depth : Nat} {entries : List (Node × Node)} {e : Scalar × Value}
    (h : e ∈ (entryMeanings depth entries).value) :
    ∃ entry ∈ entries, (entry.2.meaning depth).value = e.2 := by
  induction entries with
  | nil =>
    rw [entryMeanings] at h
    cases h
  | cons entry entries ih =>
    rw [entryMeanings] at h
    rcases List.mem_cons.mp h with rfl | h
    · exact ⟨entry, List.mem_cons_self, rfl⟩
    · obtain ⟨entry', hmem, heq⟩ := ih h
      exact ⟨entry', List.mem_cons_of_mem _ hmem, heq⟩

/-- The table that a node means is made of entries that mean something themselves. -/
theorem of_meaning_eq_table {depth : Nat} {node : Node} {t : Table}
    (h : (node.meaning depth).value = .table t) :
    t.Distinct ∧ ∀ e ∈ t, ∃ (depth' : Nat) (part : Node), (part.meaning depth').value = e.2 := by
  cases node with
  | enclosing =>
    rw [meaning] at h
    cases h
  | scalar kind text =>
    rw [meaning] at h
    split at h
    case isTrue => exact absurd h (scalarMeaning_ne_table _ _ _ t)
    case isFalse => exact absurd h (misfit_ne_table _ _ t)
  | sequence kind items =>
    rw [meaning.eq_def] at h
    dsimp only at h
    split at h
    case h_1 | h_2 | h_3 => cases h
    case h_4 => exact absurd h (misfit_ne_table _ _ t)
  | mapping kind entries merged =>
    rw [meaning.eq_def] at h
    dsimp only at h
    split at h
    case h_1 merged =>
      obtain rfl := Value.table.inj h
      obtain ⟨hdistinct, hmem⟩ := Table.distinct_ofEntries (entryMeanings (depth + 1) merged).value
      refine ⟨hdistinct, fun e he => ?_⟩
      obtain ⟨e', he', heq⟩ := hmem e he
      obtain ⟨entry, -, hentry⟩ := of_mem_entryMeanings he'
      exact ⟨depth + 1, entry.2, hentry.trans heq⟩
    case h_2 => cases h
    case h_3 =>
      split at h
      case isTrue => exact absurd h (scalarMeaning_ne_table _ _ _ t)
      case isFalse => exact absurd h (misfit_ne_table _ _ t)

end Node

/-- **A table that is read has every key once**, and so have the tables in it. -/
theorem isMapping_of_read {text : Text} {t : Table} (h : read text = .ok (.table t)) :
    t.IsMapping := by
  rw [read] at h
  split at h
  case isFalse => cases h
  case isTrue =>
    obtain ⟨node?, -, h⟩ := bind_eq_ok h
    cases node? with
    | none => cases h
    | some node =>
      have hvalue : (node.meaning 0).value = .table t := by
        change node.value = .ok (.table t) at h
        rw [Node.value] at h
        split at h
        case h_1 => cases h
        case h_2 => exact Except.ok.inj h
      obtain ⟨hdistinct, hparts⟩ := Node.of_meaning_eq_table hvalue
      refine ⟨hdistinct, fun e he => ?_⟩
      obtain ⟨depth, part, hpart⟩ := hparts e he
      cases hentry : e.2 with
      | table entries => exact (Node.of_meaning_eq_table (hpart.trans hentry)).1
      | _ => exact .nil

end SongSheet.Yaml
