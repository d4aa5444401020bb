import SongSheet.Host.Disk
import SongSheet.Proofs.Arrangement
import SongSheet.Proofs.Traversal

/-!
# What a change of a disk leaves alone

A path is followed part by part, and only directories lead on, so what comes of a path depends on
the directories and on one place more: the one where it ends or breaks off (`Disk.reach`). Files are
never written over directories. So **a file that is written changes what is read of a path only if
the path ends or breaks off at that very file** (`read_putAll`), and where files may be written
stays as it was (`sameDirectories_putAll`). Directories are only made where nothing was
(`onlyMakes_makeDirectory`).
-/

set_option autoImplicit false

namespace SongSheet

/-! ## 1. Parts of paths -/

theorem Path.child_injective {here : Path} {part other : Text}
    (h : here.child part = here.child other) : part = other :=
  (List.cons.inj (List.append_cancel_left (congrArg Path.parts h))).1

theorem Path.follow_upward_ne (here : Path) {part : Text} (h : part ≠ upward) :
    here.follow upward ≠ here.follow part := by
  have hpart : here.follow part = here.child part := if_pos h
  have hlonger : ∀ q : Path, q.parts.length ≤ here.parts.length → q ≠ here.child part := by
    rintro q hle rfl
    rw [child, List.length_append] at hle
    exact absurd hle (by simp)
  have hupward : here.child upward ≠ here.child part := by
    exact fun heq => h (child_injective heq).symm
  rw [hpart, follow, if_neg (by simp)]
  split
  · split
    · exact hupward
    · exact hlonger here (Nat.le_refl _)
  · split
    · exact hupward
    · refine hlonger here.parent ?_
      rw [parent, List.length_dropLast]
      exact Nat.sub_le ..

/-- Different parts lead to different places. -/
theorem Path.follow_injective {here : Path} {part other : Text}
    (h : here.follow part = here.follow other) : part = other := by
  by_cases hpart : part = upward
  · by_contra hne
    have hother : other ≠ upward := fun heq => hne (hpart.trans heq.symm)
    exact follow_upward_ne here hother (hpart ▸ h)
  · by_cases hother : other = upward
    · exact absurd (hother ▸ h).symm (follow_upward_ne here hpart)
    · have hchild : here.child part = here.child other := by
        rwa [follow, if_pos hpart, follow, if_pos hother] at h
      exact child_injective hchild

/-- A part leads further or back, other than at the outermost places. -/
theorem Path.length_follow_ne {here : Path} (h : here.parts ≠ []) (part : Text) :
    (here.follow part).parts.length ≠ here.parts.length := by
  have hlonger : ∀ name, (here.child name).parts.length ≠ here.parts.length := by
    intro name
    rw [child, List.length_append]
    exact Nat.ne_of_gt (Nat.lt_succ_self _)
  have hshorter : here.parent.parts.length ≠ here.parts.length := by
    rw [parent, List.length_dropLast]
    exact Nat.ne_of_lt (Nat.sub_one_lt (List.length_eq_zero_iff.not.mpr h))
  rw [follow]
  split
  case isTrue => exact hlonger part
  case isFalse =>
    split
    case h_1 hnone => exact absurd (List.getLast?_eq_none_iff.mp hnone) h
    case h_2 last hlast =>
      split
      case isTrue => exact hlonger upward
      case isFalse => exact hshorter

namespace Disk

variable {d d' d'' : Disk} {p q : Path} {octets : List UInt8}

/-! ## 2. Where a path leads -/

/-- The place where a path ends or breaks off. -/
def reachFrom (d : Disk) (here : Path) : List Text → Path
  | [] => here
  | part :: rest =>
    if d.at? here = some .directory then d.reachFrom (here.follow part) rest else here

@[inherit_doc reachFrom]
def reach (d : Disk) (p : Path) : Path := d.reachFrom { root := p.root } p.parts

/-- A walk leads on from directories only. -/
theorem walk_cons_eq_ok {here : Path} {part : Text} {rest : List Text} :
    d.walk here (part :: rest) = .ok q
      ↔ d.at? here = some .directory ∧ Path.octetCount part ≤ nameLimit
        ∧ d.walk (here.follow part) rest = .ok q := by
  rw [walk]
  split
  case h_1 hnone => simp [hnone]
  case h_2 octets hfile => simp [hfile]
  case h_3 hdirectory =>
    rw [and_iff_right hdirectory]
    by_cases hlong : nameLimit < Path.octetCount part
    · rw [if_pos hlong]
      exact ⟨nofun, fun h => absurd hlong (Nat.not_lt.mpr h.1)⟩
    · rw [if_neg hlong, and_iff_right (Nat.not_lt.mp hlong)]

theorem reachFrom_of_walk {here : Path} {parts : List Text} (h : d.walk here parts = .ok q) :
    d.reachFrom here parts = q := by
  induction parts generalizing here with
  | nil => exact Except.ok.inj h
  | cons part rest ih =>
    obtain ⟨hdirectory, -, hrest⟩ := walk_cons_eq_ok.mp h
    rw [reachFrom, if_pos hdirectory]
    exact ih hrest

/-- A walk that ends with a part comes from a directory. -/
theorem walk_concat {here : Path} {parts : List Text} {part : Text}
    (h : d.walk here (parts ++ [part]) = .ok q) :
    q = (d.reachFrom here parts).follow part := by
  induction parts generalizing here with
  | nil => exact (Except.ok.inj (walk_cons_eq_ok.mp h).2.2).symm
  | cons first parts ih =>
    obtain ⟨hdirectory, -, hrest⟩ := walk_cons_eq_ok.mp h
    rw [reachFrom, if_pos hdirectory]
    exact ih hrest

theorem place_eq_ok :
    d.place p = .ok q
      ↔ Path.octetCount p.display < pathLimit ∧ d.walk { root := p.root } p.parts = .ok q := by
  rw [Disk.place]
  by_cases hlong : pathLimit ≤ Path.octetCount p.display
  · rw [if_pos hlong]
    exact ⟨nofun, fun h => absurd hlong (Nat.not_le.mpr h.1)⟩
  · rw [if_neg hlong, and_iff_right (Nat.not_le.mp hlong)]
    cases d.walk { root := p.root } p.parts with
    | error e => exact ⟨nofun, nofun⟩
    | ok r => exact ⟨fun h => congrArg Except.ok (Except.ok.inj h), fun h => h ▸ rfl⟩

theorem reach_of_place (h : d.place p = .ok q) : d.reach p = q :=
  reachFrom_of_walk (place_eq_ok.mp h).2

/-- What is in a directory is one part further than the directory. -/
theorem place_child {name : Text} (h : d.place (p.child name) = .ok q) :
    q = (d.reach p).follow name :=
  walk_concat (place_eq_ok.mp h).2

/-- A path lies in a directory: it ends or breaks off there at a file, or where one could be. -/
def LiesIn (d : Disk) (p directory : Path) : Prop :=
  ∃ name, d.reach p = (d.reach directory).follow name ∧ d.at? (d.reach p) ≠ some .directory

/-- What leads as far as a directory does not lie in it. -/
theorem not_liesIn {directory : Path} (hparts : (d.reach directory).parts ≠ [])
    (hlength : (d.reach p).parts.length = (d.reach directory).parts.length) :
    ¬d.LiesIn p directory := by
  rintro ⟨name, hreach, -⟩
  rw [hreach] at hlength
  exact Path.length_follow_ne hparts name hlength

/-! ## 3. Disks with the same directories -/

/-- What are directories on one disk are directories on the other. -/
def SameDirectories (d d' : Disk) : Prop :=
  ∀ q, d'.at? q = some .directory ↔ d.at? q = some .directory

theorem SameDirectories.refl (d : Disk) : SameDirectories d d := fun _ => Iff.rfl

theorem SameDirectories.trans (h : SameDirectories d d') (h' : SameDirectories d' d'') :
    SameDirectories d d'' :=
  fun q => (h' q).trans (h q)

theorem SameDirectories.walk (h : SameDirectories d d') {here : Path} {parts : List Text} :
    d'.walk here parts = .ok q ↔ d.walk here parts = .ok q := by
  induction parts generalizing here with
  | nil => exact Iff.rfl
  | cons part rest ih => rw [walk_cons_eq_ok, walk_cons_eq_ok, h here, ih]

/-- Which paths lead to a place is a matter of directories. -/
theorem SameDirectories.place (h : SameDirectories d d') :
    d'.place p = .ok q ↔ d.place p = .ok q := by
  rw [place_eq_ok, place_eq_ok, h.walk]

/-- A walk also finds out what is at the place where it ends or breaks off. -/
theorem SameDirectories.walk_eq (h : SameDirectories d d') {here : Path} {parts : List Text}
    (hreach : d'.at? (d.reachFrom here parts) = d.at? (d.reachFrom here parts)) :
    d'.walk here parts = d.walk here parts := by
  induction parts generalizing here with
  | nil => rfl
  | cons part rest ih =>
    by_cases hdirectory : d.at? here = some .directory
    · rw [reachFrom, if_pos hdirectory] at hreach
      rw [Disk.walk, Disk.walk, hdirectory, (h here).mpr hdirectory, ih hreach]
    · -- Here the walk breaks off, and how it does is told by what is here.
      rw [reachFrom, if_neg hdirectory] at hreach
      rw [Disk.walk, Disk.walk, hreach]
      split
      · rfl
      · rfl
      · contradiction

/-- **What is read of a path depends on the directories and on the place where the path ends or
breaks off.** -/
theorem SameDirectories.read_eq (h : SameDirectories d d')
    (hreach : d'.at? (d.reach p) = d.at? (d.reach p)) : d'.read p = d.read p := by
  have hplace : d'.place p = d.place p := by rw [Disk.place, Disk.place, h.walk_eq hreach]
  rw [Disk.read, Disk.read, hplace]
  cases hp : d.place p with
  | error e => rfl
  | ok q =>
    rw [reach_of_place hp] at hreach
    rw [ok_bind, ok_bind, hreach]

/-! ## 4. Files -/

/-- A file can be made at a path: it leads to a place, and no directory is there. -/
def Writable (d : Disk) (p : Path) : Prop :=
  p.fault? = none ∧ ∃ q, d.place p = .ok q ∧ d.at? q ≠ some .directory

instance (d : Disk) (p : Path) : Decidable (d.Writable p) :=
  match hplace : d.place p with
  | .error _ => .isFalse fun h => by
    obtain ⟨-, q, hq, -⟩ := h
    rw [hplace] at hq
    cases hq
  | .ok q => decidable_of_iff (p.fault? = none ∧ d.at? q ≠ some .directory) (by
    refine and_congr_right fun _ => ⟨fun hfree => ⟨q, hplace, hfree⟩, ?_⟩
    rintro ⟨r, hr, hfree⟩
    rw [hplace] at hr
    cases hr
    exact hfree)

theorem SameDirectories.writable (h : SameDirectories d d') : d'.Writable p ↔ d.Writable p := by
  simp only [Writable, h.place, ne_eq, h _]

theorem write_eq (hplace : d.place p = .ok q) (hfree : d.at? q ≠ some .directory) :
    d.write p octets = .ok (d.put q (.file octets)) := by
  rw [write, hplace, ok_bind]
  split
  · contradiction
  · rfl
  · rfl

/-- A file is only written where no directory is. -/
theorem of_write (h : d.write p octets = .ok d') :
    ∃ q, d.place p = .ok q ∧ d.at? q ≠ some .directory ∧ d' = d.put q (.file octets) := by
  rw [write] at h
  obtain ⟨q, hplace, h⟩ := bind_eq_ok h
  split at h
  case h_1 => cases h
  case h_2 hfile =>
    cases h
    exact ⟨q, hplace, by simp [hfile], rfl⟩
  case h_3 hnone =>
    cases h
    exact ⟨q, hplace, by simp [hnone], rfl⟩

theorem at?_put (d : Disk) (q : Path) (e : Entry) (r : Path) :
    (d.put q e).at? r
      = if r.isAround then some .directory else if r = q then some e else d.at? r := by
  rw [at?, at?]
  by_cases haround : r.isAround
  · rw [if_pos haround, if_pos haround]
  · rw [if_neg haround, if_neg haround, if_neg haround, put, valueOf?_setEntry]

theorem at?_put_self (hfree : d.at? q ≠ some .directory) (e : Entry) :
    (d.put q e).at? q = some e := by
  have haround : ¬q.isAround = true := fun h => hfree (if_pos h)
  rw [at?_put, if_neg haround, if_pos rfl]

theorem at?_put_of_ne {r : Path} (hne : r ≠ q) (e : Entry) : (d.put q e).at? r = d.at? r := by
  rw [at?_put, if_neg hne]
  by_cases haround : r.isAround
  · rw [if_pos haround, at?, if_pos haround]
  · rw [if_neg haround]

theorem sameDirectories_put (hfree : d.at? q ≠ some .directory) (octets : List UInt8) :
    SameDirectories d (d.put q (.file octets)) := by
  intro r
  by_cases hr : r = q
  · rw [hr, at?_put_self hfree]
    exact ⟨nofun, fun h => absurd h hfree⟩
  · rw [at?_put_of_ne hr]

/-- **A file that was written is read as it was written.** -/
theorem read_put (hplace : d.place p = .ok q) (hfree : d.at? q ≠ some .directory) :
    (d.put q (.file octets)).read p = .ok octets := by
  have hagain := (sameDirectories_put hfree octets).place.mpr hplace
  rw [read, hagain, ok_bind, at?_put_self hfree]

/-- A disk with files put at places, one after the other. -/
def putAll (d : Disk) (files : List (Path × List UInt8)) : Disk :=
  files.foldl (fun d (file : Path × List UInt8) => d.put file.1 (.file file.2)) d

variable {files : List (Path × List UInt8)}

theorem putAll_concat (file : Path × List UInt8) :
    d.putAll (files ++ [file]) = (d.putAll files).put file.1 (.file file.2) :=
  List.foldl_concat ..

theorem at?_putAll_of_not_mem (h : q ∉ files.map (·.1)) : (d.putAll files).at? q = d.at? q := by
  induction files generalizing d with
  | nil => rfl
  | cons file files ih =>
    rw [List.map_cons, List.mem_cons, not_or] at h
    exact (ih h.2).trans (at?_put_of_ne h.1 _)

/-- Files over what is no directory leave the directories as they are. -/
theorem sameDirectories_putAll (hfree : ∀ file ∈ files, d.at? file.1 ≠ some .directory) :
    SameDirectories d (d.putAll files) := by
  induction files generalizing d with
  | nil => exact .refl d
  | cons file files ih =>
    have hput := sameDirectories_put (hfree file (by simp)) file.2
    refine hput.trans (ih fun other hother => ?_)
    rw [ne_eq, hput]
    exact hfree other (by simp [hother])

theorem at?_putAll (hfree : ∀ file ∈ files, d.at? file.1 ≠ some .directory)
    (hnodup : (files.map (·.1)).Nodup) {file : Path × List UInt8} (h : file ∈ files) :
    (d.putAll files).at? file.1 = some (.file file.2) := by
  induction files generalizing d with
  | nil => cases h
  | cons first files ih =>
    have hput := sameDirectories_put (hfree first (by simp)) first.2
    rw [List.map_cons, List.nodup_cons] at hnodup
    rcases List.mem_cons.mp h with rfl | h
    · exact (at?_putAll_of_not_mem hnodup.1).trans (at?_put_self (hfree file (by simp)) _)
    · refine ih (fun other hother => ?_) hnodup.2 h
      rw [ne_eq, hput]
      exact hfree other (by simp [hother])

/-- **Files change what is read of a path only where it ends or breaks off at one of them.** -/
theorem read_putAll (hfree : ∀ file ∈ files, d.at? file.1 ≠ some .directory)
    (hreach : d.reach p ∉ files.map (·.1)) : (d.putAll files).read p = d.read p :=
  (sameDirectories_putAll hfree).read_eq (at?_putAll_of_not_mem hreach)

/-! ## 5. Directories -/

/-- The other disk has directories where nothing was, and nothing else is new. -/
def OnlyMakes (d d' : Disk) : Prop :=
  ∀ q, d'.at? q = d.at? q ∨ (d.at? q = none ∧ d'.at? q = some .directory)

theorem OnlyMakes.refl (d : Disk) : OnlyMakes d d := fun _ => .inl rfl

theorem OnlyMakes.trans (h : OnlyMakes d d') (h' : OnlyMakes d' d'') : OnlyMakes d d'' := by
  intro q
  rcases h q with heq | ⟨hnone, hmade⟩
  · rw [← heq]
    exact h' q
  · rcases h' q with heq | ⟨hnone', -⟩
    · exact .inr ⟨hnone, heq.trans hmade⟩
    · rw [hmade] at hnone'
      cases hnone'

/-- Files stay what they are. -/
theorem OnlyMakes.file (h : OnlyMakes d d') :
    d'.at? q = some (.file octets) ↔ d.at? q = some (.file octets) := by
  rcases h q with heq | ⟨hnone, hmade⟩
  · rw [heq]
  · rw [hnone, hmade]
    exact ⟨nofun, nofun⟩

theorem onlyMakes_makeOne (h : d.makeOne p = .ok d') : OnlyMakes d d' := by
  rw [makeOne] at h
  obtain ⟨q, -, h⟩ := bind_eq_ok h
  split at h
  · cases h
  case h_2 hnone =>
    cases h
    intro r
    by_cases hr : r = q
    · rw [hr, at?_put_self (by simp [hnone])]
      exact .inr ⟨hnone, rfl⟩
    · exact .inl (at?_put_of_ne hr _)

theorem onlyMakes_makeWithin (outer : Nat) (d : Disk) (p : Path) :
    OnlyMakes d (makeWithin outer d p).2 := by
  fun_induction makeWithin outer d p with
  | case1 outer d p made hmade => exact onlyMakes_makeOne hmade
  | case2 d p => exact .refl d
  | case3 d p path outer hmissing e made houter ih => rwa [houter] at ih
  | case4 d p path outer hmissing around houter made hmade ih =>
    rw [houter] at ih
    exact ih.trans (onlyMakes_makeOne hmade)
  | case5 d p path outer hmissing around houter e hagain ih => rwa [houter] at ih
  | case6 outer d p => exact .refl d

/-- **Directories are only made where nothing was.** -/
theorem onlyMakes_makeDirectory (d : Disk) (p : Path) : OnlyMakes d (d.makeDirectory p).2 :=
  onlyMakes_makeWithin _ d p

/-- Directories stay where they are. -/
theorem OnlyMakes.directory (h : OnlyMakes d d') (hd : d.at? q = some .directory) :
    d'.at? q = some .directory := by
  rcases h q with heq | ⟨hnone, -⟩
  · rw [heq, hd]
  · rw [hd] at hnone
    cases hnone

theorem OnlyMakes.walk (h : OnlyMakes d d') {here : Path} {parts : List Text}
    (hw : d.walk here parts = .ok q) : d'.walk here parts = .ok q := by
  induction parts generalizing here with
  | nil => exact hw
  | cons part rest ih =>
    obtain ⟨hdirectory, hshort, hrest⟩ := walk_cons_eq_ok.mp hw
    exact walk_cons_eq_ok.mpr ⟨h.directory hdirectory, hshort, ih hrest⟩

/-- More directories lead nowhere else. -/
theorem OnlyMakes.place (h : OnlyMakes d d') (hp : d.place p = .ok q) : d'.place p = .ok q := by
  obtain ⟨hshort, hwalk⟩ := place_eq_ok.mp hp
  exact place_eq_ok.mpr ⟨hshort, h.walk hwalk⟩

theorem of_read (h : d.read p = .ok octets) :
    ∃ q, d.place p = .ok q ∧ d.at? q = some (.file octets) := by
  rw [read] at h
  obtain ⟨q, hplace, h⟩ := bind_eq_ok h
  split at h
  case h_1 there hfile =>
    cases h
    exact ⟨q, hplace, hfile⟩
  case h_2 => cases h
  case h_3 => cases h

/-- Files stay readable. -/
theorem OnlyMakes.read (h : OnlyMakes d d') (hr : d.read p = .ok octets) :
    d'.read p = .ok octets := by
  obtain ⟨q, hplace, hfile⟩ := of_read hr
  rw [Disk.read, h.place hplace, ok_bind, h.file.mpr hfile]

/-! ## 6. Free paths -/

/-- A file can be made at a path where there is nothing, once the directory that it is in is
made. -/
structure IsFree (d : Disk) (p : Path) : Prop where
  nameable : p.fault? = none
  made : (d.makeDirectory p.parent).1 = .ok ()
  free : ∃ q, (d.makeDirectory p.parent).2.place p = .ok q
    ∧ (d.makeDirectory p.parent).2.at? q = none

namespace IsFree

theorem nameable_parent (h : d.IsFree p) : p.parent.fault? = none := by
  have hnameable := h.nameable
  rw [Path.fault?] at hnameable ⊢
  split at hnameable
  case isTrue => cases hnameable
  case isFalse hsurrogate =>
    split at hnameable
    case isTrue => cases hnameable
    case isFalse hnull =>
      have houter : ∀ test : Text → Bool, ¬p.parts.any test = true →
          ¬p.parent.parts.any test = true := by
        intro test hnone hsome
        obtain ⟨part, hpart, htest⟩ := List.any_eq_true.mp hsome
        exact hnone (List.any_eq_true.mpr ⟨part, List.dropLast_subset _ hpart, htest⟩)
      rw [if_neg (houter _ hsurrogate), if_neg (houter _ hnull)]

theorem read_made_ne_ok (h : d.IsFree p) : (d.makeDirectory p.parent).2.read p ≠ .ok octets := by
  intro hread
  obtain ⟨q, hplace, hnone⟩ := h.free
  obtain ⟨r, hr, hfile⟩ := of_read hread
  cases hplace.symm.trans hr
  rw [hnone] at hfile
  cases hfile

/-- There is no file at the path yet. -/
theorem read_ne_ok (h : d.IsFree p) : d.read p ≠ .ok octets :=
  fun hread => h.read_made_ne_ok ((onlyMakes_makeDirectory d p.parent).read hread)

/-- A file that is written there is read as it was written. -/
theorem exists_write (h : d.IsFree p) (octets : List UInt8) :
    ∃ d', (d.makeDirectory p.parent).2.write p octets = .ok d' ∧ d'.read p = .ok octets := by
  obtain ⟨q, hplace, hnone⟩ := h.free
  have hfree : (d.makeDirectory p.parent).2.at? q ≠ some .directory := by
    rw [hnone]
    exact nofun
  exact ⟨_, write_eq hplace hfree, read_put hplace hfree⟩

end IsFree

end Disk

end SongSheet
