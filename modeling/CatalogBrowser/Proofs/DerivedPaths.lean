import CatalogBrowser.Proofs.Documents
import CatalogBrowser.Proofs.InPlace

/-!
# Paths derived from names

A catalog may give its entries names only. The path of an entry is then the
names from its root down to itself, which this module calls **derived**.

If no two siblings share a name, derived paths are distinct
(`Forest.Derived.distinct`): where two of them part, they part at siblings.
And every entry is in place (`Forest.Derived.inPlace`), because there is one
level for each segment. So every entry of such a catalog can be opened.
-/

namespace CatalogBrowser

namespace Forest

/-- **No two siblings share a name**, neither the roots nor the children of an
entry. -/
def SiblingsDistinct (forest : Forest) : Prop :=
  (forest.map (·.name)).Nodup ∧ ∀ r ∈ Forest.nodes forest, (r.children.map (·.name)).Nodup

instance (forest : Forest) : Decidable (SiblingsDistinct forest) :=
  inferInstanceAs (Decidable (_ ∧ _))

/-- **Every path is derived**: a root's from the path above the forest and its
name, a child's from its parent's path and its name. -/
def Derived (parent : List String) (forest : Forest) : Prop :=
  (∀ r ∈ forest, r.path = parent ++ [r.name]) ∧
    ∀ r ∈ Forest.nodes forest, ∀ t ∈ r.children, t.path = r.path ++ [t.name]

/-- The first root has a name that no other root has, and the same holds below it and for
the others. -/
theorem siblingsDistinct_cons {r : Resource} {rest : Forest} :
    SiblingsDistinct (r :: rest) ↔
      r.name ∉ rest.map (·.name) ∧ SiblingsDistinct r.children ∧ SiblingsDistinct rest := by
  rw [SiblingsDistinct, List.map_cons, List.nodup_cons, forall_mem_nodes_cons]
  constructor
  · rintro ⟨⟨hname, hrest⟩, hchildren, hc, hr⟩
    exact ⟨hname, ⟨hchildren, hc⟩, hrest, hr⟩
  · rintro ⟨hname, ⟨hchildren, hc⟩, hrest, hr⟩
    exact ⟨⟨hname, hrest⟩, hchildren, hc, hr⟩

/-- The path of the first root is made of what is above and of its name, and what is below
it is made of this path. -/
theorem derived_cons {parent : List String} {r : Resource} {rest : Forest} :
    Derived parent (r :: rest) ↔
      r.path = parent ++ [r.name] ∧ Derived r.path r.children ∧ Derived parent rest := by
  rw [Derived, List.forall_mem_cons, forall_mem_nodes_cons]
  constructor
  · rintro ⟨⟨hpath, hrest⟩, hchildren, hc, hr⟩
    exact ⟨hpath, ⟨hchildren, hc⟩, hrest, hr⟩
  · rintro ⟨hpath, ⟨hchildren, hc⟩, hrest, hr⟩
    exact ⟨⟨hpath, hrest⟩, hchildren, hc, hr⟩

/-! ## Completing paths that are all missing -/

/-- **Without a path of its own, an entry gets one from its name**, and the name stays what
it is. -/
theorem completePaths_resource (parent : List String) {r : Resource} (h : r.path = []) :
    r.completePaths parent
      = ⟨r.kind, r.name, parent ++ [r.name],
          Forest.completePaths (parent ++ [r.name]) r.children⟩ := by
  obtain ⟨kind, name, path, children⟩ := r
  obtain rfl : path = [] := h
  -- An empty name stands for the last segment, which is that name again.
  have hname : completedName name (parent ++ [name]) = name := by
    unfold completedName
    split
    · simp
    · rfl
  simp [Resource.completePaths, completedPath, hname]

/-- So siblings that have different names keep them. -/
theorem map_name_completePaths {parent : List String} {forest : Forest}
    (h : ∀ r ∈ Forest.nodes forest, r.path = []) :
    (Forest.completePaths parent forest).map (·.name) = forest.map (·.name) := by
  induction forest with
  | nil => rfl
  | cons r rest ih =>
    obtain ⟨hr, -, hrest⟩ := forall_mem_nodes_cons.1 h
    rw [Forest.completePaths, List.map_cons, List.map_cons, ih hrest,
      completePaths_resource parent hr]

/-- **Missing paths are derived**, and names stay what they are. -/
theorem derived_completePaths {parent : List String} {forest : Forest}
    (h : ∀ r ∈ Forest.nodes forest, r.path = []) (hs : SiblingsDistinct forest) :
    Derived parent (Forest.completePaths parent forest) ∧
      SiblingsDistinct (Forest.completePaths parent forest) := by
  induction forest using Forest.induction generalizing parent with
  | nil => simp [Forest.completePaths, Derived, SiblingsDistinct]
  | cons r rest ihc ihr =>
    obtain ⟨hr, hchildren, hrest⟩ := forall_mem_nodes_cons.1 h
    obtain ⟨hname, hsc, hsr⟩ := siblingsDistinct_cons.1 hs
    obtain ⟨hdc, hsc'⟩ := @ihc (parent ++ [r.name]) hchildren hsc
    obtain ⟨hdr, hsr'⟩ := @ihr parent hrest hsr
    rw [Forest.completePaths, completePaths_resource parent hr, derived_cons,
      siblingsDistinct_cons, map_name_completePaths hrest]
    exact ⟨⟨rfl, hdc, hdr⟩, hname, hsc', hsr'⟩

/-! ## Derived paths -/

/-- A derived path goes on from the parent's with the name of a root. -/
theorem Derived.exists_of_mem_paths {parent : List String} {forest : Forest}
    (h : Derived parent forest) {path : List String} (hp : path ∈ paths forest) :
    ∃ name ∈ forest.map (·.name), ∃ rest, path = parent ++ name :: rest := by
  induction forest using Forest.induction generalizing parent with
  | nil => exact absurd hp List.not_mem_nil
  | cons r rest ihc ihr =>
    obtain ⟨hr, hc, hrest⟩ := derived_cons.1 h
    rw [mem_paths_cons] at hp
    rw [List.map_cons]
    rcases hp with rfl | hp | hp
    · exact ⟨r.name, List.mem_cons_self, [], hr⟩
    · obtain ⟨name, -, tail, heq⟩ := ihc hc hp
      refine ⟨r.name, List.mem_cons_self, name :: tail, ?_⟩
      rw [heq, hr, List.append_assoc, List.singleton_append]
    · obtain ⟨name, hname, tail, heq⟩ := ihr hrest hp
      exact ⟨name, List.mem_cons_of_mem _ hname, tail, heq⟩

/-- The path below the first entry begins with its path, and goes on. -/
theorem Derived.exists_of_mem_paths_children {parent : List String} {r : Resource}
    {rest : Forest} (h : Derived parent (r :: rest)) {path : List String}
    (hp : path ∈ paths r.children) :
    ∃ name tail, path = parent ++ r.name :: name :: tail := by
  obtain ⟨hr, hc, -⟩ := derived_cons.1 h
  obtain ⟨name, -, tail, heq⟩ := hc.exists_of_mem_paths hp
  exact ⟨name, tail, by rw [heq, hr, List.append_assoc, List.singleton_append]⟩

/-- **Derived paths are distinct** if no two siblings share a name. -/
theorem Derived.distinct {parent : List String} {forest : Forest} (h : Derived parent forest)
    (hs : SiblingsDistinct forest) : Distinct forest := by
  induction forest using Forest.induction generalizing parent with
  | nil => exact distinct_nil
  | cons r rest ihc ihr =>
    obtain ⟨hr, hc, hrest⟩ := derived_cons.1 h
    obtain ⟨hname, hsc, hsr⟩ := siblingsDistinct_cons.1 hs
    -- The siblings' paths go on from the parent's with other names.
    have hbeside : ∀ tail, parent ++ r.name :: tail ∉ paths rest := by
      intro tail hp
      obtain ⟨name, hmem, tail', heq⟩ := hrest.exists_of_mem_paths hp
      rw [List.append_cancel_left_eq, List.cons.injEq] at heq
      exact hname (heq.1 ▸ hmem)
    refine distinct_cons.2 ⟨fun hp => ?_, ?_, ihc hc hsc, ihr hrest hsr, fun path hp => ?_⟩
    · obtain ⟨name, tail, heq⟩ := h.exists_of_mem_paths_children hp
      rw [hr, List.append_cancel_left_eq] at heq
      simp at heq
    · rw [hr]
      exact hbeside []
    · obtain ⟨name, tail, rfl⟩ := h.exists_of_mem_paths_children hp
      exact hbeside _

/-- **With derived paths every entry is in place.** -/
theorem Derived.inPlace {parent : List String} {level : Forest} (h : Derived parent level)
    {r : Resource} (hr : r ∈ Forest.nodes level) : InPlace r parent level := by
  induction level using Forest.induction generalizing parent with
  | nil => exact absurd hr List.not_mem_nil
  | cons t level ihc ihr =>
    obtain ⟨ht, hc, hrest⟩ := derived_cons.1 h
    rw [mem_nodes_cons] at hr
    rcases hr with rfl | hr | hr
    · exact .here List.mem_cons_self ht
    · exact .deeper List.mem_cons_self ht (ihc hc hr)
    · exact (ihr hrest hr).cons

end Forest

/-! ## Catalogs -/

namespace Catalog

/-- The children of every entry can be loaded by its derived path. -/
theorem loadChildren_of_derived {c : Catalog} (h : Forest.Derived [] c.roots)
    (hs : Forest.SiblingsDistinct c.roots) {r : Resource} (hr : r ∈ Forest.nodes c.roots) :
    c.loadChildren r.path = .ok (r.children.map Resource.shallow) :=
  loadChildren_of_inPlace (h.distinct hs) (h.inPlace hr)

/-- **The entries a text lists**, as they stand there. -/
def listed? (text : String) : Option Forest :=
  match document text with
  | .ok (value, _) => entries? value
  | .error _ => none

/-- **A catalog consists of the entries its text lists**, with their paths
completed. -/
theorem roots_of_ofText {path text : String} {c : Catalog} (h : ofText path text = .ok c)
    {entries : Forest} (hl : listed? text = some entries) :
    c.roots = Forest.completePaths [] entries := by
  obtain ⟨value, hparse, hjson⟩ := exists_parse_of_ofText h
  obtain ⟨rest, hdoc, -⟩ := parse_eq_ok_iff.1 hparse
  obtain ⟨entries', hlists, -, rfl⟩ := ofJson_eq_ok_iff.1 hjson
  rw [listed?, hdoc] at hl
  rw [hlists.unique (Json.entries?_eq_some_iff.1 hl)]

end Catalog

end CatalogBrowser
