import CatalogBrowser.Proofs.Forests
import CatalogBrowser.Tree.IdSet

/-!
# Forests with parts left out

The browser holds a part of its catalog: the roots, and below an entry
either all of its children or none. That a forest is such a part of another
is what `Forest.Prunes` says.

The part is known once it is known which entries have been loaded.
`Forest.trim` leaves the children of every other entry out, and a trimmed
forest prunes the whole one (`Forest.trim_prunes`); the more entries are
loaded, the less is left out (`Forest.trim_prunes_trim`). In a distinct
forest nothing below an entry that is not loaded can be seen anywhere
(`Forest.not_mem_paths_trim`), since its path occurs nowhere else.
-/

namespace CatalogBrowser

/-! ## Pruning -/

mutual

/-- **An entry with its children left out, or with all of them**, each pruned
in turn. -/
def Resource.Prunes : Resource → Resource → Prop
  | ⟨kind, name, path, children⟩, whole =>
    kind = whole.kind ∧ name = whole.name ∧ path = whole.path ∧
      (children = [] ∨ Forest.Prunes children whole.children)

/-- **A forest of as many entries, each of them pruned.** -/
def Forest.Prunes : Forest → Forest → Prop
  | [], [] => True
  | r :: rs, s :: ss => r.Prunes s ∧ Forest.Prunes rs ss
  | _, _ => False

end

/-- A resource prunes another of the same kind, name and path. -/
theorem Resource.prunes_iff {r s : Resource} :
    r.Prunes s ↔ r.kind = s.kind ∧ r.name = s.name ∧ r.path = s.path ∧
      (r.children = [] ∨ Forest.Prunes r.children s.children) := by
  cases r
  rfl

namespace Forest

@[simp]
theorem prunes_nil : Forest.Prunes [] [] := trivial

@[simp]
theorem prunes_cons {r s : Resource} {rs ss : Forest} :
    Forest.Prunes (r :: rs) (s :: ss) ↔ r.Prunes s ∧ Forest.Prunes rs ss := Iff.rfl

/-- Pruning is root by root, so no root is lost. -/
theorem Prunes.length_eq {part whole : Forest} (h : part.Prunes whole) :
    part.length = whole.length := by
  induction part generalizing whole with
  | nil =>
    cases whole with
    | nil => rfl
    | cons s ss => exact h.elim
  | cons r rs ih =>
    cases whole with
    | nil => exact h.elim
    | cons s ss => rw [List.length_cons, List.length_cons, ih (prunes_cons.1 h).2]

end Forest

/-! ## Trimming -/

mutual

/-- A resource with the children of every entry left out that is not loaded. -/
def Resource.trim (loaded : IdSet) : Resource → Resource
  | ⟨kind, name, path, children⟩ =>
    ⟨kind, name, path, if Path.id path ∈ loaded then Forest.trim loaded children else []⟩

/-- **The part of a forest that can be seen** when the children of some entries
are loaded. -/
def Forest.trim (loaded : IdSet) : Forest → Forest
  | [] => []
  | r :: rs => r.trim loaded :: Forest.trim loaded rs

end

namespace Resource

variable (loaded : IdSet) (r : Resource)

@[simp]
theorem kind_trim : (r.trim loaded).kind = r.kind := by
  cases r
  rfl

@[simp]
theorem name_trim : (r.trim loaded).name = r.name := by
  cases r
  rfl

@[simp]
theorem path_trim : (r.trim loaded).path = r.path := by
  cases r
  rfl

@[simp]
theorem id_trim : (r.trim loaded).id = r.id := congrArg Path.id (path_trim loaded r)

/-- What is below an entry is trimmed in turn if it was loaded, and left out otherwise. -/
theorem children_trim :
    (r.trim loaded).children = if r.id ∈ loaded then Forest.trim loaded r.children else [] := by
  cases r
  rfl

/-- Children that were loaded are there, though perhaps without theirs. -/
theorem children_trim_of_mem {loaded : IdSet} {r : Resource} (h : r.id ∈ loaded) :
    (r.trim loaded).children = Forest.trim loaded r.children := by
  rw [children_trim, if_pos h]

/-- Children that were not loaded are not there. -/
theorem children_trim_of_not_mem {loaded : IdSet} {r : Resource} (h : r.id ∉ loaded) :
    (r.trim loaded).children = [] := by
  rw [children_trim, if_neg h]

/-- A trimmed entry prunes another of the same kind, name and path if, should it
be loaded, its children do. -/
theorem trim_prunes_of_children {loaded : IdSet} {r s : Resource} (hkind : r.kind = s.kind)
    (hname : r.name = s.name) (hpath : r.path = s.path)
    (hchildren : r.id ∈ loaded → (Forest.trim loaded r.children).Prunes s.children) :
    (r.trim loaded).Prunes s := by
  rw [prunes_iff, kind_trim, name_trim, path_trim]
  refine ⟨hkind, hname, hpath, ?_⟩
  by_cases hr : r.id ∈ loaded
  · rw [children_trim_of_mem hr]
    exact Or.inr (hchildren hr)
  · exact Or.inl (children_trim_of_not_mem hr)

end Resource

namespace Forest

@[simp]
theorem trim_nil (loaded : IdSet) : Forest.trim loaded [] = [] := rfl

@[simp]
theorem trim_cons (loaded : IdSet) (r : Resource) (rest : Forest) :
    Forest.trim loaded (r :: rest) = r.trim loaded :: Forest.trim loaded rest := rfl

/-- Roots are trimmed one by one. The function is one recursion over entries and forests,
and this takes the forests out of it. -/
theorem trim_eq_map (loaded : IdSet) (forest : Forest) :
    Forest.trim loaded forest = forest.map (·.trim loaded) := by
  induction forest with
  | nil => rfl
  | cons r rest ih => rw [trim_cons, ih, List.map_cons]

/-- Trimming loses no root. -/
theorem length_trim (loaded : IdSet) (forest : Forest) :
    (Forest.trim loaded forest).length = forest.length := by
  rw [trim_eq_map, List.length_map]

/-- An entry of the part is the trimming of an entry of the whole. So whatever is loaded
can be compared with the catalog entry by entry. -/
theorem exists_of_mem_nodes_trim {loaded : IdSet} {forest : Forest} {n : Resource}
    (h : n ∈ Forest.nodes (Forest.trim loaded forest)) :
    ∃ r ∈ Forest.nodes forest, r.trim loaded = n := by
  induction forest using Forest.induction with
  | nil => exact absurd h List.not_mem_nil
  | cons r rest ihc ihr =>
    rw [trim_cons, mem_nodes_cons] at h
    rcases h with rfl | h | h
    · exact ⟨r, by simp, rfl⟩
    · by_cases hr : r.id ∈ loaded
      · rw [Resource.children_trim_of_mem hr] at h
        obtain ⟨s, hs, hsn⟩ := ihc h
        exact ⟨s, by simp [hs], hsn⟩
      · rw [Resource.children_trim_of_not_mem hr] at h
        exact absurd h List.not_mem_nil
    · obtain ⟨s, hs, hsn⟩ := ihr h
      exact ⟨s, by simp [hs], hsn⟩

/-- **The paths of the part are among those of the whole**, in the same order. Nothing
comes up twice, and nothing changes places. -/
theorem paths_trim_sublist (loaded : IdSet) (forest : Forest) :
    (paths (Forest.trim loaded forest)).Sublist (paths forest) := by
  induction forest using Forest.induction with
  | nil => exact List.Sublist.refl _
  | cons r rest ihc ihr =>
    rw [trim_cons, paths_cons, paths_cons, Resource.path_trim]
    refine (List.Sublist.append ?_ ihr).cons_cons _
    by_cases hr : r.id ∈ loaded
    · rw [Resource.children_trim_of_mem hr]
      exact ihc
    · rw [Resource.children_trim_of_not_mem hr]
      exact List.nil_sublist _

/-- What is left has the paths it had before. -/
theorem mem_paths_of_mem_paths_trim {loaded : IdSet} {forest : Forest} {path : List String}
    (h : path ∈ paths (Forest.trim loaded forest)) : path ∈ paths forest :=
  (paths_trim_sublist loaded forest).subset h

/-- So distinct paths stay distinct, whatever has been loaded. -/
theorem Distinct.trim {forest : Forest} (h : Distinct forest) (loaded : IdSet) :
    Distinct (Forest.trim loaded forest) :=
  (paths_trim_sublist loaded forest).nodup h

/-- A path can be seen as that of the first entry, below it if it is loaded, or
among the siblings. -/
theorem mem_paths_trim_cons {loaded : IdSet} {r : Resource} {rest : Forest}
    {path : List String} :
    path ∈ paths (Forest.trim loaded (r :: rest)) ↔
      path = r.path ∨ (r.id ∈ loaded ∧ path ∈ paths (Forest.trim loaded r.children)) ∨
        path ∈ paths (Forest.trim loaded rest) := by
  rw [trim_cons, mem_paths_cons, Resource.path_trim]
  by_cases hr : r.id ∈ loaded
  · simp [Resource.children_trim_of_mem hr, hr]
  · simp [Resource.children_trim_of_not_mem hr, hr]

/-- **What can be seen stays in sight** when more is loaded. An entry that was selected or
has a star is never lost again. -/
theorem mem_paths_trim_mono {loaded loaded' : IdSet} (h : ∀ id ∈ loaded, id ∈ loaded')
    {forest : Forest} {path : List String} (hp : path ∈ paths (Forest.trim loaded forest)) :
    path ∈ paths (Forest.trim loaded' forest) := by
  induction forest using Forest.induction with
  | nil => exact hp
  | cons r rest ihc ihr =>
    rw [mem_paths_trim_cons] at hp ⊢
    rcases hp with heq | ⟨hr, hc⟩ | hrest
    · exact Or.inl heq
    · exact Or.inr (Or.inl ⟨h _ hr, ihc hc⟩)
    · exact Or.inr (Or.inr (ihr hrest))

/-- A path from below the first entry can only be seen there. -/
theorem Distinct.seen_below {loaded : IdSet} {r : Resource} {rest : Forest}
    (hd : Distinct (r :: rest)) {path : List String} (hp : path ∈ paths r.children)
    (h : path ∈ paths (Forest.trim loaded (r :: rest))) :
    r.id ∈ loaded ∧ path ∈ paths (Forest.trim loaded r.children) := by
  obtain ⟨hrc, -, -, -, hcr⟩ := distinct_cons.1 hd
  rcases mem_paths_trim_cons.1 h with rfl | h | h
  · exact absurd hp hrc
  · exact h
  · exact absurd (mem_paths_of_mem_paths_trim h) (hcr _ hp)

/-- A path from among the siblings can only be seen there. -/
theorem Distinct.seen_beside {loaded : IdSet} {r : Resource} {rest : Forest}
    (hd : Distinct (r :: rest)) {path : List String} (hp : path ∈ paths rest)
    (h : path ∈ paths (Forest.trim loaded (r :: rest))) :
    path ∈ paths (Forest.trim loaded rest) := by
  obtain ⟨-, hrr, -, -, hcr⟩ := distinct_cons.1 hd
  rcases mem_paths_trim_cons.1 h with rfl | ⟨-, h⟩ | h
  · exact absurd hp hrr
  · exact absurd hp (hcr _ (mem_paths_of_mem_paths_trim h))
  · exact h

/-- **Nothing below an entry that is not loaded can be seen**, because its path
stands nowhere else. -/
theorem not_mem_paths_trim {loaded : IdSet} {forest : Forest} (hd : Distinct forest)
    {r : Resource} (hr : r ∈ Forest.nodes forest) (hl : r.id ∉ loaded) {path : List String}
    (hp : path ∈ paths r.children) : path ∉ paths (Forest.trim loaded forest) := by
  induction forest using Forest.induction with
  | nil => exact absurd hr List.not_mem_nil
  | cons s rest ihc ihr =>
    obtain ⟨-, -, hdc, hdr, -⟩ := distinct_cons.1 hd
    intro hseen
    rw [mem_nodes_cons] at hr
    rcases hr with rfl | hr | hr
    · exact hl (hd.seen_below hp hseen).1
    · exact ihc hdc hr (hd.seen_below (mem_paths_of_mem_children hr hp) hseen).2
    · exact ihr hdr hr (hd.seen_beside (mem_paths_of_mem_children hr hp) hseen)

/-- Trimming only asks which entries of the forest are loaded. Ids that are no entry's make
no difference. -/
theorem trim_congr {loaded loaded' : IdSet} {forest : Forest}
    (h : ∀ r ∈ Forest.nodes forest, r.id ∈ loaded ↔ r.id ∈ loaded') :
    Forest.trim loaded forest = Forest.trim loaded' forest := by
  induction forest using Forest.induction with
  | nil => rfl
  | cons r rest ihc ihr =>
    obtain ⟨hr, hc, hrest⟩ := forall_mem_nodes_cons.1 h
    rw [trim_cons, trim_cons, ihr hrest]
    refine congrArg (· :: _) ?_
    obtain ⟨kind, name, path, children⟩ := r
    have hid : Path.id path ∈ loaded ↔ Path.id path ∈ loaded' := hr
    rw [Resource.trim, Resource.trim, ihc hc]
    simp only [hid]

/-- With nothing loaded, the entries themselves are seen. -/
theorem trim_eq_map_shallow {loaded : IdSet} {forest : Forest}
    (h : ∀ r ∈ forest, r.id ∉ loaded) :
    Forest.trim loaded forest = forest.map Resource.shallow := by
  rw [trim_eq_map]
  refine List.map_congr_left fun r hr => ?_
  have hid : Path.id r.path ∉ loaded := h r hr
  cases r
  rw [Resource.trim, if_neg hid]
  rfl

/-! ## Trimming prunes -/

/-- **What is loaded of a forest is a pruning of it.** Each root keeps its name, kind and
path, and its children are pruned or gone. -/
theorem trim_prunes (loaded : IdSet) (forest : Forest) :
    (Forest.trim loaded forest).Prunes forest := by
  induction forest using Forest.induction with
  | nil => exact prunes_nil
  | cons r rest ihc ihr =>
    refine prunes_cons.2 ⟨?_, ihr⟩
    exact Resource.trim_prunes_of_children rfl rfl rfl fun _ => ihc

/-- **The more is loaded, the less is left out.** This compares two states of the browser,
and neither with the catalog. -/
theorem trim_prunes_trim {loaded loaded' : IdSet} (h : ∀ id ∈ loaded, id ∈ loaded')
    (forest : Forest) : (Forest.trim loaded forest).Prunes (Forest.trim loaded' forest) := by
  induction forest using Forest.induction with
  | nil => exact prunes_nil
  | cons r rest ihc ihr =>
    refine prunes_cons.2 ⟨?_, ihr⟩
    refine Resource.trim_prunes_of_children (by simp) (by simp) (by simp) fun hr => ?_
    rw [Resource.children_trim_of_mem (h _ hr)]
    exact ihc

end Forest

/-- The same for an entry, as a forest of one root. -/
theorem Resource.trim_prunes (loaded : IdSet) (r : Resource) : (r.trim loaded).Prunes r :=
  (Forest.prunes_cons.1 (Forest.trim_prunes loaded [r])).1

end CatalogBrowser
