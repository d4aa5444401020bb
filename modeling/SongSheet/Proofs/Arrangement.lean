import Mathlib.Data.List.Induction
import SongSheet.Arrangement

/-!
# What arranging keeps

Facts about `eraseDups`, `gatherBy` and `sortBy` that say what is in the result and in which order,
without saying how it comes about.
-/

set_option autoImplicit false

namespace SongSheet

universe u v

variable {α : Type u}

/-- Where nothing comes twice nothing is left out. -/
theorem eraseDups_eq_self [BEq α] [LawfulBEq α] {xs : List α} (h : xs.Nodup) :
    xs.eraseDups = xs := by
  induction xs with
  | nil => rfl
  | cons x xs ih =>
    rw [List.nodup_cons] at h
    have hfilter : xs.filter (fun y => !y == x) = xs := by
      refine List.filter_eq_self.mpr fun y hy => ?_
      have hne : y ≠ x := fun heq => h.1 (heq ▸ hy)
      simp [hne]
    rw [List.eraseDups_cons, hfilter, ih h.2]

/-- What is left when repetitions are dropped comes once. -/
theorem nodup_eraseDups [BEq α] [LawfulBEq α] : ∀ xs : List α, xs.eraseDups.Nodup
  | [] => List.nodup_nil
  | x :: xs => by
    rw [List.eraseDups_cons]
    refine List.nodup_cons.mpr ⟨?_, nodup_eraseDups (xs.filter fun y => !y == x)⟩
    intro hmem
    obtain ⟨-, hkept⟩ := List.mem_filter.mp (List.mem_eraseDups.mp hmem)
    simp at hkept
termination_by xs => xs.length
decreasing_by exact Nat.lt_succ_of_le (List.length_filter_le _ xs)

/-- Dropping repetitions keeps the order. -/
theorem eraseDups_sublist [BEq α] [LawfulBEq α] : ∀ xs : List α, xs.eraseDups.Sublist xs
  | [] => .slnil
  | x :: xs => by
    rw [List.eraseDups_cons]
    exact .cons_cons x ((eraseDups_sublist (xs.filter fun y => !y == x)).trans List.filter_sublist)
termination_by xs => xs.length
decreasing_by exact Nat.lt_succ_of_le (List.length_filter_le _ xs)

/-! ## Gathering -/

/-- A first run of items with one key is gathered by itself if the key does not come again. -/
theorem gatherBy_append {κ : Type v} [BEq κ] [LawfulBEq κ] {key : α → κ} {k : κ} {xs ys : List α}
    (hne : xs ≠ []) (hxs : ∀ x ∈ xs, key x = k) (hys : ∀ y ∈ ys, key y ≠ k) :
    gatherBy key (xs ++ ys) = (k, xs) :: gatherBy key ys := by
  have hkeys : ((xs ++ ys).map key).eraseDups = k :: (ys.map key).eraseDups := by
    obtain ⟨x, xs, rfl⟩ := List.exists_cons_of_ne_nil hne
    have hdropped : (xs.map key).filter (fun k' => !k' == k) = [] := by
      rw [List.filter_eq_nil_iff]
      intro k' hk'
      obtain ⟨x', hx', rfl⟩ := List.mem_map.mp hk'
      simp [hxs x' (by simp [hx'])]
    have hkept : (ys.map key).filter (fun k' => !k' == k) = ys.map key := by
      rw [List.filter_eq_self]
      intro k' hk'
      obtain ⟨y, hy, rfl⟩ := List.mem_map.mp hk'
      simp [hys y hy]
    rw [List.cons_append, List.map_cons, hxs x (by simp), List.eraseDups_cons, List.map_append,
      List.filter_append, hdropped, hkept, List.nil_append]
  have hown : (xs ++ ys).filter (key · == k) = xs := by
    have hkept : xs.filter (key · == k) = xs := by
      rw [List.filter_eq_self]
      intro x hx
      simp [hxs x hx]
    have hdropped : ys.filter (key · == k) = [] := by
      rw [List.filter_eq_nil_iff]
      intro y hy
      simp [hys y hy]
    rw [List.filter_append, hkept, hdropped, List.append_nil]
  rw [gatherBy, gatherBy, hkeys, List.map_cons, hown]
  refine congrArg _ (List.map_congr_left fun k' hk' => ?_)
  obtain ⟨y, hy, rfl⟩ := List.mem_map.mp (List.mem_eraseDups.mp hk')
  have hdropped : xs.filter (key · == key y) = [] := by
    rw [List.filter_eq_nil_iff]
    intro x hx
    have hdiffers := hys y hy
    rw [hxs x hx]
    simpa using hdiffers.symm
  rw [List.filter_append, hdropped, List.nil_append]

/-- A key is there for the items that have it. -/
theorem ne_nil_of_mem_gatherBy {κ : Type v} [BEq κ] [LawfulBEq κ] {key : α → κ} {xs : List α}
    {entry : κ × List α} (h : entry ∈ gatherBy key xs) : entry.2 ≠ [] := by
  obtain ⟨k, hk, rfl⟩ := List.mem_map.mp h
  obtain ⟨x, hx, rfl⟩ := List.mem_map.mp (List.mem_eraseDups.mp hk)
  exact List.ne_nil_of_mem (List.mem_filter.mpr ⟨hx, beq_self_eq_true _⟩)

/-- **Gathering loses nothing and adds nothing**, by whatever keys, as long as every item has one of
them. -/
theorem flatMap_filter_perm {κ : Type v} [BEq κ] [LawfulBEq κ] {key : α → κ} {keys : List κ}
    (h : keys.Nodup) {xs : List α} (hxs : ∀ x ∈ xs, key x ∈ keys) :
    (keys.flatMap fun k => xs.filter (key · == k)).Perm xs := by
  induction keys generalizing xs with
  | nil =>
    have hnone : xs = [] := List.eq_nil_iff_forall_not_mem.mpr fun x hx =>
      List.not_mem_nil (hxs x hx)
    rw [hnone]
    exact .refl _
  | cons k keys ih =>
    obtain ⟨hk, hkeys⟩ := List.nodup_cons.mp h
    -- The items of the other keys are found among those that have not the first one.
    have hothers : (keys.flatMap fun k' => xs.filter (key · == k'))
        = keys.flatMap fun k' => (xs.filter fun x => !(key x == k)).filter (key · == k') := by
      refine congrArg List.flatten (List.map_congr_left fun k' hk' => ?_)
      rw [List.filter_filter]
      refine List.filter_congr fun x _ => ?_
      by_cases hx : key x = k'
      · have hne : k' ≠ k := fun heq => hk (heq ▸ hk')
        simp [hx, hne]
      · simp [hx]
    have hrest : ∀ x ∈ xs.filter fun x => !(key x == k), key x ∈ keys := by
      intro x hx
      obtain ⟨hx, hne⟩ := List.mem_filter.mp hx
      exact (List.mem_cons.mp (hxs x hx)).resolve_left (by simpa using hne)
    rw [List.flatMap_cons, hothers]
    exact ((ih hkeys hrest).append_left _).trans (List.filter_append_perm _ xs)

/-! ## Order -/

theorem mem_insertBy {le : α → α → Bool} {x y : α} {ys : List α} :
    y ∈ insertBy le x ys ↔ y = x ∨ y ∈ ys := by
  rw [(insertBy_perm le x ys).mem_iff, List.mem_cons]

theorem mem_sortBy {le : α → α → Bool} {x : α} {xs : List α} : x ∈ sortBy le xs ↔ x ∈ xs :=
  (sortBy_perm le xs).mem_iff

/-- Sorting by what items are mapped to is sorting what they are mapped to. -/
theorem sortBy_map {β : Type v} (f : α → β) (le : β → β → Bool) (xs : List α) :
    sortBy le (xs.map f) = (sortBy (fun a b => le (f a) (f b)) xs).map f := by
  have hinsert : ∀ (x : α) (ys : List α), insertBy le (f x) (ys.map f)
      = (insertBy (fun a b => le (f a) (f b)) x ys).map f := by
    intro x ys
    induction ys with
    | nil => rfl
    | cons y ys ih =>
      rw [List.map_cons, insertBy, insertBy]
      by_cases hle : le (f x) (f y)
      · rw [if_pos hle, if_pos hle]
        rfl
      · rw [if_neg hle, if_neg hle, ih]
        rfl
  induction xs with
  | nil => rfl
  | cons x xs ih =>
    show insertBy le (f x) (sortBy le (xs.map f)) = _
    rw [ih, hinsert]
    rfl

theorem pairwise_insertBy {le : α → α → Bool} (htotal : ∀ a b, le a b = true ∨ le b a = true)
    (htrans : ∀ a b c, le a b = true → le b c = true → le a c = true) {x : α} {ys : List α}
    (h : ys.Pairwise fun a b => le a b = true) :
    (insertBy le x ys).Pairwise fun a b => le a b = true := by
  induction ys with
  | nil => exact List.pairwise_singleton _ x
  | cons y ys ih =>
    obtain ⟨hy, hys⟩ := List.pairwise_cons.mp h
    rw [insertBy]
    by_cases hle : le x y
    · rw [if_pos hle]
      refine List.pairwise_cons.mpr ⟨?_, h⟩
      intro z hz
      rcases List.mem_cons.mp hz with rfl | hz
      · exact hle
      · exact htrans x y z hle (hy z hz)
    · rw [if_neg hle]
      have hyx : le y x = true := (htotal x y).resolve_left hle
      refine List.pairwise_cons.mpr ⟨?_, ih hys⟩
      intro z hz
      rcases mem_insertBy.mp hz with rfl | hz
      · exact hyx
      · exact hy z hz

/-- **Sorted items are in order**, if the order is total and transitive. -/
theorem pairwise_sortBy {le : α → α → Bool} (htotal : ∀ a b, le a b = true ∨ le b a = true)
    (htrans : ∀ a b c, le a b = true → le b c = true → le a c = true) (xs : List α) :
    (sortBy le xs).Pairwise fun a b => le a b = true := by
  induction xs with
  | nil => exact List.Pairwise.nil
  | cons x xs ih => exact pairwise_insertBy htotal htrans ih

theorem insertBy_of_forall_le {le : α → α → Bool} {x : α} {ys : List α}
    (h : ∀ y ∈ ys, le x y = true) : insertBy le x ys = x :: ys := by
  cases ys with
  | nil => rfl
  | cons y ys => rw [insertBy, if_pos (h y List.mem_cons_self)]

/-- Items in order stay where they are. -/
theorem sortBy_eq_self {le : α → α → Bool} {xs : List α}
    (h : xs.Pairwise fun a b => le a b = true) : sortBy le xs = xs := by
  induction xs with
  | nil => rfl
  | cons x xs ih =>
    obtain ⟨hx, hxs⟩ := List.pairwise_cons.mp h
    show insertBy le x (sortBy le xs) = _
    rw [ih hxs, insertBy_of_forall_le hx]

theorem filter_insertBy {le : α → α → Bool}
    (htrans : ∀ a b c, le a b = true → le b c = true → le a c = true) (q : α → Bool) (x : α)
    {ys : List α} (h : ys.Pairwise fun a b => le a b = true) :
    (insertBy le x ys).filter q
      = if q x then insertBy le x (ys.filter q) else ys.filter q := by
  induction ys with
  | nil => rw [insertBy, List.filter_cons, List.filter_nil, insertBy]
  | cons y ys ih =>
    obtain ⟨hy, hys⟩ := List.pairwise_cons.mp h
    rw [insertBy]
    by_cases hle : le x y = true
    · -- What is left is behind `x` as all of it was.
      have hbehind : ∀ z ∈ (y :: ys).filter q, le x z = true := by
        intro z hz
        rcases List.mem_cons.mp (List.mem_filter.mp hz).1 with rfl | hz
        · exact hle
        · exact htrans x y z hle (hy z hz)
      rw [if_pos hle, insertBy_of_forall_le hbehind, List.filter_cons]
    · rw [if_neg hle, List.filter_cons, ih hys, List.filter_cons]
      by_cases hqx : q x = true
      · by_cases hqy : q y = true
        · rw [if_pos hqy, if_pos hqy, if_pos hqx, if_pos hqx, insertBy, if_neg hle]
        · rw [if_neg hqy, if_neg hqy, if_pos hqx]
      · rw [if_neg hqx, if_neg hqx]

/-- **Some of the sorted items are the same items sorted**: leaving items out and sorting can trade
places. -/
theorem filter_sortBy {le : α → α → Bool} (htotal : ∀ a b, le a b = true ∨ le b a = true)
    (htrans : ∀ a b c, le a b = true → le b c = true → le a c = true) (q : α → Bool)
    (xs : List α) : (sortBy le xs).filter q = sortBy le (xs.filter q) := by
  induction xs with
  | nil => rfl
  | cons x xs ih =>
    show (insertBy le x (sortBy le xs)).filter q = _
    rw [filter_insertBy htrans q x (pairwise_sortBy htotal htrans xs), ih, List.filter_cons]
    by_cases hq : q x = true
    · rw [if_pos hq, if_pos hq]
      rfl
    · rw [if_neg hq, if_neg hq]

/-! ## Entries -/

section

variable {κ : Type v} [DecidableEq κ]

theorem setEntry_append {key : κ} {value : α} {entries : List (κ × α)}
    (h : key ∉ entries.map (·.1)) : setEntry key value entries = entries ++ [(key, value)] := by
  induction entries with
  | nil => rfl
  | cons entry entries ih =>
    rw [List.map_cons, List.mem_cons, not_or] at h
    rw [setEntry, if_neg (Ne.symm h.1), ih h.2, List.cons_append]

theorem assign_concat (entries : List (κ × α)) (key : κ) (value : α) :
    assign (entries ++ [(key, value)]) = setEntry key value (assign entries) := by
  rw [assign, List.foldl_append]
  rfl

/-- Entries whose keys all differ stay as they are. -/
theorem assign_eq_self {entries : List (κ × α)} (h : (entries.map (·.1)).Nodup) :
    assign entries = entries := by
  induction entries using List.reverseRecOn with
  | nil => rfl
  | append_singleton entries entry ih =>
    rw [List.map_append, List.nodup_append] at h
    have hnew : entry.1 ∉ entries.map (·.1) := fun hmem => h.2.2 _ hmem _ (by simp) rfl
    rw [assign_concat, ih h.1, setEntry_append hnew]

/-- The value of a key is the one that it was given last. -/
theorem valueOf?_setEntry (k key : κ) (value : α) (entries : List (κ × α)) :
    valueOf? k (setEntry key value entries)
      = if k = key then some value else valueOf? k entries := by
  induction entries with
  | nil =>
    rw [setEntry, valueOf?, List.find?_singleton]
    by_cases hk : k = key
    · simp [hk]
    · simp [hk, valueOf?, Ne.symm hk]
  | cons entry entries ih =>
    obtain ⟨first, x⟩ := entry
    rw [setEntry]
    by_cases hfirst : first = key
    · subst hfirst
      rw [if_pos rfl]
      by_cases hk : k = first
      · simp [valueOf?, hk]
      · simp [valueOf?, hk, Ne.symm hk]
    · rw [if_neg hfirst]
      by_cases hk : first = k
      · subst hk
        simp [valueOf?, hfirst]
      · rw [valueOf?, List.find?_cons_of_neg (by simpa using hk), ← valueOf?, ih, valueOf?,
          valueOf?, List.find?_cons_of_neg (by simpa using hk)]

/-- A new key comes last; one that is there stays where it is. -/
theorem map_fst_setEntry (key : κ) (value : α) (entries : List (κ × α)) :
    (setEntry key value entries).map (·.1)
      = if key ∈ entries.map (·.1) then entries.map (·.1) else entries.map (·.1) ++ [key] := by
  induction entries with
  | nil => rfl
  | cons entry entries ih =>
    rw [setEntry, List.map_cons]
    by_cases hkey : entry.1 = key
    · rw [if_pos hkey, if_pos (by simp [hkey]), List.map_cons]
    · have hmem : key ∈ entry.1 :: entries.map (·.1) ↔ key ∈ entries.map (·.1) := by
        rw [List.mem_cons, or_iff_right (Ne.symm hkey)]
      rw [if_neg hkey, List.map_cons, ih]
      simp only [hmem]
      split <;> rfl

/-- Among entries whose keys all differ a new one replaces that of its key and no other. -/
theorem mem_setEntry {k key : κ} {x value : α} {entries : List (κ × α)}
    (h : (entries.map (·.1)).Nodup) :
    (k, x) ∈ setEntry key value entries
      ↔ (k, x) = (key, value) ∨ (k, x) ∈ entries ∧ k ≠ key := by
  induction entries with
  | nil => simp [setEntry]
  | cons entry entries ih =>
    obtain ⟨first, y⟩ := entry
    obtain ⟨hfirst, hentries⟩ := List.nodup_cons.mp h
    rw [setEntry]
    by_cases hkey : first = key
    · subst hkey
      have hother : (k, x) ∈ entries → k ≠ first := by
        rintro hmem rfl
        exact hfirst (List.mem_map.mpr ⟨_, hmem, rfl⟩)
      rw [if_pos rfl, List.mem_cons, List.mem_cons]
      grind
    · rw [if_neg hkey, List.mem_cons, List.mem_cons, ih hentries]
      grind

/-- **The keys of entries to be kept are all keys, in the order in which they first came.** -/
theorem map_fst_assign [BEq κ] [LawfulBEq κ] (entries : List (κ × α)) :
    (assign entries).map (·.1) = (entries.map (·.1)).eraseDups := by
  induction entries using List.reverseRecOn with
  | nil => rfl
  | append_singleton entries entry ih =>
    rw [assign_concat, map_fst_setEntry, ih, List.map_append, List.eraseDups_append]
    by_cases hmem : entry.1 ∈ entries.map (·.1)
    · rw [if_pos (List.mem_eraseDups.mpr hmem)]
      simp [List.removeAll, hmem]
    · rw [if_neg (fun h => hmem (List.mem_eraseDups.mp h))]
      simp [List.removeAll, hmem, List.eraseDups_cons]

theorem nodup_assign (entries : List (κ × α)) : ((assign entries).map (·.1)).Nodup := by
  rw [map_fst_assign]
  exact nodup_eraseDups _

/-- **The value of a key to be kept is the one that came last.** -/
theorem mem_assign {entries : List (κ × α)} {key : κ} {value : α} :
    (key, value) ∈ assign entries
      ↔ ∃ before after, entries = before ++ (key, value) :: after ∧ ∀ e ∈ after, e.1 ≠ key := by
  induction entries using List.reverseRecOn with
  | nil => simp [assign]
  | append_singleton entries entry ih =>
    obtain ⟨k, x⟩ := entry
    rw [assign_concat, mem_setEntry (nodup_assign entries), ih]
    constructor
    · rintro (hlast | ⟨⟨before, after, rfl, hafter⟩, hne⟩)
      · exact ⟨entries, [], by rw [hlast], nofun⟩
      · refine ⟨before, after ++ [(k, x)], by simp, ?_⟩
        intro e he
        rcases List.mem_append.mp he with he | he
        · exact hafter e he
        · rw [List.mem_singleton.mp he]
          exact Ne.symm hne
    · rintro ⟨before, after, heq, hafter⟩
      rcases List.eq_nil_or_concat after with rfl | ⟨after, last, rfl⟩
      · exact .inl (List.singleton_inj.mp (List.append_inj' heq rfl).2.symm)
      · rw [List.concat_eq_append, ← List.cons_append, ← List.append_assoc] at heq
        obtain ⟨rfl, hlast⟩ := List.append_inj' heq rfl
        obtain rfl := List.singleton_inj.mp hlast
        refine .inr ⟨⟨before, after, rfl, fun e he => hafter e (by simp [he])⟩, ?_⟩
        exact Ne.symm (hafter (k, x) (by simp))

/-- **Of entries to be kept no key comes twice, and each was there.** -/
theorem assign_spec (entries : List (κ × α)) :
    ((assign entries).map (·.1)).Nodup ∧ ∀ entry ∈ assign entries, entry ∈ entries := by
  refine ⟨nodup_assign entries, fun entry hentry => ?_⟩
  obtain ⟨before, after, rfl, -⟩ := mem_assign.mp hentry
  exact List.mem_append_right before List.mem_cons_self

end

end SongSheet
