import CatalogBrowser.Catalog.Basic
import CatalogBrowser.Proofs.Pruning
import CatalogBrowser.Resource.Basic

/-!
# Loading is taking less away

Children come from the catalog by a search that goes down one level for
each segment of the path, and they are hung up by another that goes down
wherever an entry's path leads towards the target. The two need not find
the same entry, and neither need find any: a catalog may give its entries
whatever paths it likes.

If the paths are distinct, though, and the first search succeeds, then the
entries it passed have the prefixes of the path for their own paths, which
is all the second search asks for. So the children are hung below the entry
they belong to, and the forest is the one in which that entry is loaded too
(`Forest.graft?_trim`).
-/

namespace CatalogBrowser

/-! ## The search of the catalog -/

namespace Catalog

@[simp]
theorem descend?_no_segments (done : List String) (level : Forest) :
    descend? done [] level = none := rfl

@[simp]
theorem descend?_no_entries (done rest : List String) : descend? done rest [] = none := by
  cases rest <;> rfl

/-- The search takes the first entry on a level that is where the way leads, and never
comes back to try another. -/
theorem descend?_cons (done : List String) (segment : String) (rest : List String)
    (r : Resource) (level : Forest) :
    descend? done (segment :: rest) (r :: level)
      = if r.path = done ++ [segment] then
          if rest.isEmpty then some r else descend? (done ++ [segment]) rest r.children
        else descend? done (segment :: rest) level := by
  rw [descend?, List.find?_cons, descend?]
  by_cases h : r.path = done ++ [segment] <;> simp [h]

/-- **What is found by a path has that path.** -/
theorem mem_of_descend? {done rest : List String} {level : Forest} {r : Resource}
    (h : descend? done rest level = some r) :
    r ∈ Forest.nodes level ∧ r.path = done ++ rest := by
  induction level using Forest.induction generalizing done rest with
  | nil => simp at h
  | cons t level ihc ihr =>
    rw [Forest.mem_nodes_cons]
    cases rest with
    | nil => simp at h
    | cons segment rest =>
      rw [descend?_cons] at h
      split at h
      · next ht =>
        cases rest with
        | nil =>
          obtain rfl : t = r := by simpa using h
          exact ⟨Or.inl rfl, ht⟩
        | cons next rest =>
          obtain ⟨hr, hp⟩ := ihc h
          exact ⟨Or.inr (Or.inl hr), by rw [hp, List.append_assoc, List.singleton_append]⟩
      · obtain ⟨hr, hp⟩ := ihr h
        exact ⟨Or.inr (Or.inr hr), hp⟩

/-- Children are loaded if the search succeeds. -/
theorem loadChildren_eq_ok {c : Catalog} {path : List String} {children : Forest}
    (h : c.loadChildren path = .ok children) :
    ∃ r, c.find? path = some r ∧ children = r.children.map Resource.shallow := by
  rw [loadChildren] at h
  split at h
  · next r hr => exact ⟨r, hr, by simpa using h.symm⟩
  · exact nomatch h

end Catalog

/-! ## Grafting -/

theorem Resource.graft?_eq (target : List String) (grafted : Forest) (r : Resource) :
    r.graft? target grafted
      = if r.path = target then some { r with children := grafted }
        else if !r.path.isEmpty && r.path.isPrefixOf target then
          (Forest.graft? target grafted r.children).map fun children => { r with children }
        else none := by
  cases r
  rfl

namespace Forest

/-- There is nothing to graft on without an entry at the target. -/
theorem graft?_eq_none {target : List String} {grafted forest : Forest}
    (h : target ∉ paths forest) : Forest.graft? target grafted forest = none := by
  induction forest using Forest.induction with
  | nil => rfl
  | cons r rest ihc ihr =>
    rw [mem_paths_cons, not_or, not_or] at h
    have hr : r.graft? target grafted = none := by
      rw [Resource.graft?_eq, if_neg (Ne.symm h.1), ihc h.2.1]
      split <;> rfl
    rw [Forest.graft?, hr, ihr h.2.2]
    rfl

/-- Grafting goes past an entry that does not hold the target. -/
theorem graft?_cons_of_not_mem {target : List String} {grafted rest : Forest} {r : Resource}
    (hr : target ≠ r.path) (hc : target ∉ paths r.children) :
    Forest.graft? target grafted (r :: rest)
      = (Forest.graft? target grafted rest).map (r :: ·) := by
  have hnone : r.graft? target grafted = none := by
    rw [Resource.graft?_eq, if_neg (Ne.symm hr), graft?_eq_none hc]
    split <;> rfl
  rw [Forest.graft?, hnone]

/-- Grafting replaces the children of the entry at the target. -/
theorem graft?_cons_of_eq {target : List String} {grafted rest : Forest} {r : Resource}
    (hr : r.path = target) :
    Forest.graft? target grafted (r :: rest)
      = some ({ r with children := grafted } :: rest) := by
  rw [Forest.graft?, Resource.graft?_eq, if_pos hr]

/-- Grafting goes down where the path leads towards the target. -/
theorem graft?_cons_of_prefix {target : List String} {grafted children rest : Forest}
    {r : Resource} (hne : r.path ≠ target) (hnil : r.path ≠ []) (hpre : r.path <+: target)
    (h : Forest.graft? target grafted r.children = some children) :
    Forest.graft? target grafted (r :: rest) = some ({ r with children } :: rest) := by
  have hgo : (!r.path.isEmpty && r.path.isPrefixOf target) = true := by
    simp [hnil, hpre]
  rw [Forest.graft?, Resource.graft?_eq, if_neg hne, if_pos hgo, h]
  rfl

/-- **Grafting succeeds at the first entry, below it, or beside it.** -/
theorem graft?_cons_eq_some {target : List String} {grafted rest forest' : Forest}
    {r : Resource} (h : Forest.graft? target grafted (r :: rest) = some forest') :
    (r.path = target ∧ forest' = { r with children := grafted } :: rest) ∨
      (∃ children, Forest.graft? target grafted r.children = some children ∧
        forest' = { r with children } :: rest) ∨
      ∃ rest', Forest.graft? target grafted rest = some rest' ∧ forest' = r :: rest' := by
  rw [Forest.graft?] at h
  cases hr : r.graft? target grafted with
  | none =>
    rw [hr] at h
    obtain ⟨rest', hrest, rfl⟩ := Option.map_eq_some_iff.1 h
    exact Or.inr (Or.inr ⟨rest', hrest, rfl⟩)
  | some r' =>
    rw [hr] at h
    obtain rfl : r' :: rest = forest' := Option.some.inj h
    rw [Resource.graft?_eq] at hr
    split at hr
    · next hpath =>
      obtain rfl := Option.some.inj hr
      exact Or.inl ⟨hpath, rfl⟩
    · split at hr
      · obtain ⟨children, hchildren, rfl⟩ := Option.map_eq_some_iff.1 hr
        exact Or.inr (Or.inl ⟨children, hchildren, rfl⟩)
      · cases hr

/-! ## Grafting on a trimmed forest -/

/-- Loading an entry changes nothing where the entry is not. -/
theorem trim_insert_of_not_mem {loaded : IdSet} {target : List String} {forest : Forest}
    (h : target ∉ paths forest) :
    Forest.trim (loaded.insert (Path.id target)) forest = Forest.trim loaded forest := by
  refine trim_congr fun r hr => ?_
  rw [IdSet.mem_insert, Resource.id, Path.id_inj]
  exact or_iff_right fun heq => h (heq ▸ path_mem_paths hr)

/-- Nor does it change an entry that neither is at the target nor holds it. -/
theorem trim_resource_insert_of_not_mem {loaded : IdSet} {target : List String} {r : Resource}
    (hr : target ≠ r.path) (hc : target ∉ paths r.children) :
    r.trim (loaded.insert (Path.id target)) = r.trim loaded := by
  have h : target ∉ paths [r] := by
    rw [mem_paths_cons, not_or, not_or]
    exact ⟨hr, hc, List.not_mem_nil⟩
  exact List.head_eq_of_cons_eq (trim_insert_of_not_mem h)

/-- The children of an entry are the given ones as soon as they are. -/
theorem eq_of_children_eq {r s : Resource} {children : Forest} (hk : r.kind = s.kind)
    (hn : r.name = s.name) (hp : r.path = s.path) (hc : s.children = children) :
    { r with children } = s := by
  cases r
  cases s
  simp_all

section GraftTrim

variable {loaded : IdSet} {r : Resource} {rest grafted : Forest} {target : List String}

/-- The first entry is loaded. -/
theorem graft?_trim_here (hd : Distinct (r :: rest))
    (hbelow : ∀ t ∈ Forest.nodes r.children, t.id ∉ loaded) :
    Forest.graft? r.path (r.children.map Resource.shallow) (Forest.trim loaded (r :: rest))
      = some (Forest.trim (loaded.insert r.id) (r :: rest)) := by
  obtain ⟨hrc, hrr, -, -, -⟩ := distinct_cons.1 hd
  have hl : r.id ∈ loaded.insert r.id := IdSet.mem_insert.2 (Or.inl rfl)
  have hchildren : (r.trim (loaded.insert r.id)).children
      = r.children.map Resource.shallow := by
    rw [Resource.children_trim_of_mem hl, Resource.id, trim_insert_of_not_mem hrc]
    exact trim_eq_map_shallow fun t ht => hbelow t (mem_nodes_of_mem ht)
  rw [trim_cons, graft?_cons_of_eq (Resource.path_trim loaded r),
    eq_of_children_eq (by simp) (by simp) (by simp) hchildren, trim_cons, Resource.id,
    trim_insert_of_not_mem hrr]

/-- An entry below the first one is loaded. -/
theorem graft?_trim_below (hd : Distinct (r :: rest)) (htarget : target ∈ paths r.children)
    (hnil : r.path ≠ []) (hpre : r.path <+: target) (hl : r.id ∈ loaded)
    (h : Forest.graft? target grafted (Forest.trim loaded r.children)
      = some (Forest.trim (loaded.insert (Path.id target)) r.children)) :
    Forest.graft? target grafted (Forest.trim loaded (r :: rest))
      = some (Forest.trim (loaded.insert (Path.id target)) (r :: rest)) := by
  obtain ⟨hrc, -, -, -, hcr⟩ := distinct_cons.1 hd
  have hne : r.path ≠ target := fun heq => hrc (heq ▸ htarget)
  have hl' : r.id ∈ loaded.insert (Path.id target) := IdSet.mem_insert.2 (Or.inr hl)
  rw [← Resource.children_trim_of_mem hl] at h
  rw [trim_cons, graft?_cons_of_prefix (by rwa [Resource.path_trim])
    (by rwa [Resource.path_trim]) (by rwa [Resource.path_trim]) h,
    eq_of_children_eq (by simp) (by simp) (by simp) (Resource.children_trim_of_mem hl'),
    trim_cons, trim_insert_of_not_mem (hcr _ htarget)]

/-- An entry beside the first one is loaded. -/
theorem graft?_trim_beside (hd : Distinct (r :: rest)) (htarget : target ∈ paths rest)
    (h : Forest.graft? target grafted (Forest.trim loaded rest)
      = some (Forest.trim (loaded.insert (Path.id target)) rest)) :
    Forest.graft? target grafted (Forest.trim loaded (r :: rest))
      = some (Forest.trim (loaded.insert (Path.id target)) (r :: rest)) := by
  obtain ⟨-, hrr, -, -, hcr⟩ := distinct_cons.1 hd
  have hne : target ≠ r.path := fun heq => hrr (heq ▸ htarget)
  have hnc : target ∉ paths r.children := fun hc => hcr _ hc htarget
  have hnc' : target ∉ paths (r.trim loaded).children := by
    by_cases hl : r.id ∈ loaded
    · rw [Resource.children_trim_of_mem hl]
      exact fun hc => hnc (mem_paths_of_mem_paths_trim hc)
    · rw [Resource.children_trim_of_not_mem hl]
      exact List.not_mem_nil
  rw [trim_cons, graft?_cons_of_not_mem (by rwa [Resource.path_trim]) hnc', h, trim_cons,
    trim_resource_insert_of_not_mem hne hnc]
  rfl

end GraftTrim

/-- **Grafting the children of an entry loads it.** The entry is found by the
search of the catalog, it can be seen, and nothing below it is loaded yet. -/
theorem graft?_trim {loaded : IdSet} {level : Forest} (hd : Distinct level)
    {done rest : List String} {r : Resource}
    (hfind : Catalog.descend? done rest level = some r)
    (hseen : r.path ∈ paths (Forest.trim loaded level))
    (hbelow : ∀ t ∈ Forest.nodes r.children, t.id ∉ loaded) :
    Forest.graft? r.path (r.children.map Resource.shallow) (Forest.trim loaded level)
      = some (Forest.trim (loaded.insert r.id) level) := by
  induction level using Forest.induction generalizing done rest with
  | nil => simp at hfind
  | cons t level ihc ihr =>
    obtain ⟨-, -, hdc, hdr, -⟩ := distinct_cons.1 hd
    cases rest with
    | nil => simp at hfind
    | cons segment rest =>
      rw [Catalog.descend?_cons] at hfind
      split at hfind
      · next ht =>
        cases rest with
        | nil =>
          obtain rfl : t = r := by simpa using hfind
          exact graft?_trim_here hd hbelow
        | cons next rest =>
          obtain ⟨hr, hp⟩ := Catalog.mem_of_descend? hfind
          obtain ⟨hl, hc⟩ := hd.seen_below (path_mem_paths hr) hseen
          -- What is found further down has the path so far for a prefix.
          have hpre : t.path <+: r.path := by
            rw [ht, hp]
            exact List.prefix_append _ _
          exact graft?_trim_below hd (path_mem_paths hr) (by simp [ht]) hpre hl
            (ihc hdc hfind hc)
      · obtain ⟨hr, -⟩ := Catalog.mem_of_descend? hfind
        exact graft?_trim_beside hd (path_mem_paths hr)
          (ihr hdr hfind (hd.seen_beside (path_mem_paths hr) hseen))

end Forest

end CatalogBrowser
