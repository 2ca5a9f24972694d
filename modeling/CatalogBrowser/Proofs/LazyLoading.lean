import CatalogBrowser.Catalog.Basic
import CatalogBrowser.Proofs.Loading
import CatalogBrowser.Proofs.Selecting

/-!
# Loading on demand cannot be told from having everything

The browser starts with the roots of its catalog and loads the children of
an entry when the entry is opened for the first time. This module shows that
nobody can see the difference: over a catalog whose paths are distinct, the
rows are at any time those that the same state would give over the whole
catalog (`Browser.faces_rows_after`).

What makes it so is an invariant of all runs, `Browser.Lazy`. There is a set
of entries that have been loaded, and the forest of the browser is that of
the catalog, trimmed by this set. An entry that is open is in the set, and
the catalog can load what is in the set. What is in the set or carries a
star can be seen. Keys only ever add to the set, so what was loaded stays
(`Browser.roots_after_prunes`).

A catalog may give its entries paths under which they cannot be found again.
Such an entry never opens. Its children are in the catalog and not in the
browser, but no row is missing on that account, since there is none below an
entry that is closed.
-/

namespace CatalogBrowser

namespace Browser

/-- **The browser holds the part of its catalog that was loaded.** -/
structure Lazy (c : Catalog) (loaded : IdSet) (b : Browser) : Prop where
  /-- The catalog is the one it started with. -/
  catalog_eq : b.catalog = c
  /-- Of the catalog it has what was loaded. -/
  roots_eq : b.roots = Forest.trim loaded c.roots
  /-- What is open is loaded. -/
  mem_loaded : ∀ id ∈ b.tree.expanded, id ∈ loaded
  /-- What is loaded the catalog can load. -/
  loads : ∀ path, Path.id path ∈ loaded → ∃ children, c.loadChildren path = .ok children
  /-- What is loaded can be seen. -/
  loaded_seen : ∀ id ∈ loaded, ∃ path ∈ Forest.paths b.roots, Path.id path = id
  /-- What carries a star can be seen. -/
  starred_seen : ∀ id ∈ b.tree.starred, ∃ path ∈ Forest.paths b.roots, Path.id path = id
  /-- Nothing is waiting. -/
  loading_eq : b.tree.loading = .empty

variable {c : Catalog} {loaded : IdSet} {b : Browser}

/-- At the start nothing is loaded but the roots. -/
theorem lazy_start (config : Config) (c : Catalog) (network : Network) :
    Lazy c .empty (start config c network).value where
  catalog_eq := rfl
  roots_eq := (Forest.trim_eq_map_shallow fun r _ => IdSet.not_mem_empty r.id).symm
  mem_loaded := fun id h => absurd h (IdSet.not_mem_empty id)
  loads := fun path h => absurd h (IdSet.not_mem_empty (Path.id path))
  loaded_seen := fun id h => absurd h (IdSet.not_mem_empty id)
  starred_seen := fun id h => absurd h (IdSet.not_mem_empty id)
  loading_eq := rfl

namespace Lazy

/-- The entries of the browser are those of the catalog, trimmed. -/
theorem exists_of_mem_nodes (h : Lazy c loaded b) {r : Resource}
    (hr : r ∈ Forest.nodes b.roots) : ∃ s ∈ Forest.nodes c.roots, s.trim loaded = r :=
  Forest.exists_of_mem_nodes_trim (h.roots_eq ▸ hr)

/-- What is loaded is part of the catalog, so its paths are as distinct as those of the
catalog. -/
theorem distinct (h : Lazy c loaded b) (hd : Forest.Distinct c.roots) :
    Forest.Distinct b.roots :=
  h.roots_eq ▸ hd.trim loaded

/-- **Nothing below an entry without children is loaded.** -/
theorem not_mem_loaded_below (h : Lazy c loaded b) (hd : Forest.Distinct c.roots)
    {s : Resource} (hs : s ∈ Forest.nodes c.roots) (hc : (s.trim loaded).children = [])
    {t : Resource} (ht : t ∈ Forest.nodes s.children) : t.id ∉ loaded := by
  by_cases hl : s.id ∈ loaded
  · -- The entry is loaded, so that it has no children at all.
    rw [Resource.children_trim_of_mem hl, Forest.trim_eq_map, List.map_eq_nil_iff] at hc
    rw [hc] at ht
    exact absurd ht List.not_mem_nil
  · intro hmem
    obtain ⟨path, hpath, hid⟩ := h.loaded_seen _ hmem
    rw [h.roots_eq, Path.id_injective hid] at hpath
    exact Forest.not_mem_paths_trim hd hs hl (Forest.path_mem_paths ht) hpath

/-- **Loading an entry's children trims the catalog less.** -/
theorem graft_eq (h : Lazy c loaded b) (hd : Forest.Distinct c.roots) {r : Resource}
    (hr : r ∈ Forest.nodes b.roots) (hc : r.children = []) {children : Forest}
    (hload : c.loadChildren r.path = .ok children) :
    Forest.graft r.path children b.roots = Forest.trim (loaded.insert r.id) c.roots := by
  obtain ⟨s, hs, rfl⟩ := h.exists_of_mem_nodes hr
  rw [Resource.path_trim] at hload ⊢
  obtain ⟨t, hfind, rfl⟩ := Catalog.loadChildren_eq_ok hload
  obtain ⟨ht, hp⟩ := Catalog.mem_of_descend? hfind
  obtain rfl : t = s := hd.eq_of_path ht hs hp
  have hseen : t.path ∈ Forest.paths (Forest.trim loaded c.roots) := by
    rw [← h.roots_eq, ← Resource.path_trim loaded]
    exact Forest.path_mem_paths hr
  rw [Forest.graft, h.roots_eq, Forest.graft?_trim hd hfind hseen fun _ hu =>
    h.not_mem_loaded_below hd hs hc hu, Option.getD_some, Resource.id_trim]

/-- An entry that has children in the browser is loaded. -/
theorem mem_loaded_of_children (h : Lazy c loaded b) {r : Resource}
    (hr : r ∈ Forest.nodes b.roots) (hc : r.children ≠ []) : r.id ∈ loaded := by
  obtain ⟨s, -, rfl⟩ := h.exists_of_mem_nodes hr
  rw [Resource.id_trim]
  by_contra hl
  exact hc (Resource.children_trim_of_not_mem hl)

/-! ## Keys -/

/-- The invariant does not ask for the highlight, the page or what is selected. -/
theorem congr (h : Lazy c loaded b) {b' : Browser} (hcatalog : b'.catalog = b.catalog)
    (hroots : b'.roots = b.roots) (hexpanded : ∀ id ∈ b'.tree.expanded, id ∈ b.tree.expanded)
    (hstarred : b'.tree.starred = b.tree.starred)
    (hloading : b'.tree.loading = b.tree.loading) : Lazy c loaded b' where
  catalog_eq := hcatalog.trans h.catalog_eq
  roots_eq := hroots.trans h.roots_eq
  mem_loaded := fun id hid => h.mem_loaded id (hexpanded id hid)
  loads := h.loads
  loaded_seen := by
    rw [hroots]
    exact h.loaded_seen
  starred_seen := by
    rw [hroots, hstarred]
    exact h.starred_seen
  loading_eq := hloading.trans h.loading_eq

/-- Selecting a row loads one more entry at most. -/
theorem turned (h : Lazy c loaded b) (hd : Forest.Distinct c.roots) {row : Row}
    (hrow : b.highlighted? = some row) {b' : Browser} (hturn : Turned b row b') :
    ∃ loaded', (∀ id ∈ loaded, id ∈ loaded') ∧ Lazy c loaded' b' := by
  obtain ⟨d, t, ht, heq⟩ := exists_of_highlighted? hrow
  have hid : row.id = t.id := by
    rw [heq]
    rfl
  have hres : row.resource = t := by
    rw [heq]
    rfl
  cases hturn with
  | leaf _ => exact ⟨loaded, fun _ hl => hl, h.congr rfl rfl (fun _ hl => hl) rfl rfl⟩
  | closed _ =>
    exact ⟨loaded, fun _ hl => hl,
      h.congr rfl rfl (fun _ hl => (IdSet.mem_erase.1 hl).1) rfl rfl⟩
  | opened _ _ hc =>
    refine ⟨loaded, fun _ hl => hl, h.catalog_eq, h.roots_eq, fun id hl => ?_, h.loads,
      h.loaded_seen, h.starred_seen, h.loading_eq⟩
    rcases IdSet.mem_insert.1 hl with rfl | hl
    · rw [hid]
      exact h.mem_loaded_of_children ht (hres ▸ hc)
    · exact h.mem_loaded id hl
  | @loaded _ _ hc r hr children hload =>
    -- The entry that is looked up is the one in the row.
    obtain ⟨hrn, hrid⟩ := Forest.mem_of_lookup hr
    obtain rfl : r = t := (h.distinct hd).eq_of_id hrn ht (hrid.trans hid)
    rw [h.catalog_eq] at hload
    have hgraft := h.graft_eq hd ht (hres ▸ hc) hload
    have hmono : ∀ id ∈ loaded, id ∈ loaded.insert r.id :=
      fun id hl => IdSet.mem_insert.2 (Or.inr hl)
    have hseen : ∀ path ∈ Forest.paths b.roots,
        path ∈ Forest.paths (Forest.graft r.path children b.roots) := by
      intro path hpath
      rw [hgraft]
      exact Forest.mem_paths_trim_mono hmono (h.roots_eq ▸ hpath)
    refine ⟨loaded.insert r.id, hmono, h.catalog_eq, hgraft, fun id hl => ?_, fun path hl => ?_,
      fun id hl => ?_, fun id hl => ?_, h.loading_eq⟩
    · rw [hid] at hl
      exact (IdSet.mem_insert.1 hl).elim (fun heq => IdSet.mem_insert.2 (Or.inl heq))
        fun hl => hmono id (h.mem_loaded id hl)
    · rcases IdSet.mem_insert.1 hl with heq | hl
      · exact ⟨children, Path.id_injective heq ▸ hload⟩
      · exact h.loads path hl
    · rcases IdSet.mem_insert.1 hl with rfl | hl
      · exact ⟨r.path, hseen _ (Forest.path_mem_paths ht), rfl⟩
      · obtain ⟨path, hpath, hpid⟩ := h.loaded_seen id hl
        exact ⟨path, hseen _ hpath, hpid⟩
    · obtain ⟨path, hpath, hpid⟩ := h.starred_seen id hl
      exact ⟨path, hseen _ hpath, hpid⟩
  | refused _ _ _ _ _ =>
    exact ⟨loaded, fun _ hl => hl, h.congr rfl rfl (fun _ hl => hl) rfl rfl⟩

/-- **A selection loads what it needs**, and nothing that was loaded is lost by it. -/
theorem select (h : Lazy c loaded b) (hd : Forest.Distinct c.roots) :
    ∃ loaded', (∀ id ∈ loaded, id ∈ loaded') ∧ Lazy c loaded' b.select.value := by
  cases hrow : b.highlighted? with
  | none =>
    rw [value_select_of_none hrow]
    exact ⟨loaded, fun _ hl => hl, h⟩
  | some row =>
    obtain ⟨b', hturn, hvalue⟩ := exists_turned h.loading_eq hrow
    obtain ⟨loaded', hmono, h'⟩ := h.turned hd hrow hturn
    rw [hvalue]
    exact ⟨loaded', hmono, h'.congr rfl rfl (fun _ hl => hl) rfl rfl⟩

/-- A star is put on an entry that can be seen. -/
theorem toggleStar (h : Lazy c loaded b) : Lazy c loaded b.toggleStar := by
  unfold Browser.toggleStar
  split
  · exact h
  · next row hrow =>
    obtain ⟨d, t, ht, heq⟩ := exists_of_highlighted? hrow
    refine ⟨h.catalog_eq, h.roots_eq, fun id hl => ?_, h.loads, h.loaded_seen, fun id hs => ?_, ?_⟩
    · exact h.mem_loaded id (TreeState.expanded_toggleStar b.tree row.id ▸ hl)
    · rcases TreeState.mem_starred_toggleStar hs with rfl | hs
      · rw [heq]
        exact ⟨t.path, Forest.path_mem_paths ht, rfl⟩
      · exact h.starred_seen id hs
    · exact (TreeState.loading_toggleStar b.tree row.id).trans h.loading_eq

/-- **Every key keeps what is loaded**, and perhaps adds to it. -/
theorem press (h : Lazy c loaded b) (hd : Forest.Distinct c.roots) (key : Key) :
    ∃ loaded', (∀ id ∈ loaded, id ∈ loaded') ∧ Lazy c loaded' (b.press key).value := by
  have stays : ∀ {b' : Browser}, Lazy c loaded b' →
      ∃ loaded', (∀ id ∈ loaded, id ∈ loaded') ∧ Lazy c loaded' b' :=
    fun h' => ⟨loaded, fun _ hl => hl, h'⟩
  unfold Browser.press
  cases key.action? with
  | none => exact stays h
  | some action =>
    cases action with
    | select => exact h.select hd
    | toggleStar => exact stays h.toggleStar
    | quit | moveDown | moveUp | clear | toggleTab | nextPage | previousPage | toggleNetwork =>
      exact stays (h.congr rfl rfl (fun _ hl => hl) rfl rfl)

end Lazy

/-- **At any time there is a set of loaded entries.** -/
theorem exists_lazy_after (hd : Forest.Distinct c.roots) (config : Config) (network : Network)
    (keys : List Key) : ∃ loaded, Lazy c loaded (after config c network keys) := by
  refine after_induction (P := fun b => ∃ loaded, Lazy c loaded b)
    ⟨_, lazy_start config c network⟩ ?_ keys
  rintro b key ⟨loaded, h⟩
  obtain ⟨loaded', -, h'⟩ := h.press hd key
  exact ⟨loaded', h'⟩

namespace Lazy

/-- **The rows are those of the whole catalog.** -/
theorem faces_rows (h : Lazy c loaded b) (hd : Forest.Distinct c.roots) :
    b.rows.map Row.face = (b.tree.visibleRows b.options c.roots).map Row.face := by
  rw [rows, h.roots_eq]
  refine TreeState.faces_visibleRows_trim hd h.mem_loaded fun r hr hs => ?_
  obtain ⟨path, hpath, hid⟩ := h.starred_seen _ hs
  rw [← h.roots_eq]
  rwa [Path.id_injective hid] at hpath

/-- An id that can be seen is the id of one entry. -/
theorem exists_filter_eq (h : Lazy c loaded b) (hd : Forest.Distinct c.roots) {id : String}
    (hid : ∃ path ∈ Forest.paths b.roots, Path.id path = id) :
    ∃ s ∈ Forest.nodes c.roots, s.id = id ∧
      (Forest.nodes b.roots).filter (·.id = id) = [s.trim loaded] := by
  obtain ⟨path, hpath, rfl⟩ := hid
  obtain ⟨r, hr, rfl⟩ := Forest.mem_paths.1 hpath
  obtain ⟨s, hs, rfl⟩ := h.exists_of_mem_nodes hr
  refine ⟨s, hs, (Resource.id_trim loaded s).symm, ?_⟩
  exact (h.distinct hd).filter_id_eq hr

end Lazy

/-! ## What is seen of it -/

/-- **Loading on demand cannot be told from having the whole catalog.** Over a
catalog whose entries have different paths, the rows after any keys are, on
either tab, those that the same state and the same options give over the
whole catalog. -/
theorem faces_rows_after {c : Catalog} (hd : Forest.Distinct c.roots) (config : Config)
    (network : Network) (keys : List Key) :
    let b := after config c network keys
    b.rows.map Row.face = (b.tree.visibleRows b.options c.roots).map Row.face := by
  obtain ⟨loaded, h⟩ := exists_lazy_after hd config network keys
  exact h.faces_rows hd

/-- **A lake with a folder that was moved.** The path of the folder is its own,
and does not go on from that of the lake. -/
def movedFolder : Catalog where
  path := "lake.json"
  roots :=
    [⟨.source, "lake", ["lake"],
      [⟨.folder, "raw", ["lake", "raw"], [⟨.file, "trips", ["lake", "raw", "trips"], []⟩]⟩,
        ⟨.folder, "old", ["attic", "old"], [⟨.file, "zones", ["attic", "old", "zones"], []⟩]⟩]⟩]

/-- The moved folder cannot be opened, and the rest can. -/
theorem faces_rows_after_movedFolder :
    Forest.Distinct movedFolder.roots ∧
    let b := after {} movedFolder .online
      [⟨.enter, false⟩, ⟨.down, false⟩, ⟨.enter, false⟩, ⟨.down, false⟩, ⟨.down, false⟩,
        ⟨.enter, false⟩, ⟨.char 's', false⟩]
    b.rows.map Row.id = ["lake", "lake.raw", "lake.raw.trips", "attic.old"] ∧
      b.rows.map Row.face = (b.tree.visibleRows b.options movedFolder.roots).map Row.face :=
  have hd : Forest.Distinct movedFolder.roots := by decide
  ⟨hd, by decide +kernel, faces_rows_after hd _ _ _⟩

/-- **The browser holds a growing part of its catalog, and remembers nothing it
does not hold.** Over a catalog whose entries have different paths, the
forest of the browser prunes that of the catalog; what is open is one entry
of it, with all the children it has in the catalog; what carries a star is
one entry of it; and no key takes anything away. -/
theorem roots_after_prunes {c : Catalog} (hd : Forest.Distinct c.roots) (config : Config)
    (network : Network) (keys : List Key) :
    let b := after config c network keys
    (b.roots.length = c.roots.length ∧ b.roots.Prunes c.roots) ∧
    (∀ id ∈ b.tree.expanded, ∃ r, (Forest.nodes b.roots).filter (·.id = id) = [r] ∧
      ∃ s ∈ Forest.nodes c.roots, r.Prunes s ∧ r.children.length = s.children.length) ∧
    (∀ id ∈ b.tree.starred, ∃ r, (Forest.nodes b.roots).filter (·.id = id) = [r]) ∧
    ∀ key, b.roots.Prunes (b.press key).value.roots := by
  intro b
  obtain ⟨loaded, h⟩ : ∃ loaded, Lazy c loaded b := exists_lazy_after hd config network keys
  have hprunes : b.roots.Prunes c.roots := by
    rw [h.roots_eq]
    exact Forest.trim_prunes loaded c.roots
  refine ⟨⟨hprunes.length_eq, hprunes⟩, fun id hid => ?_, fun id hid => ?_, fun key => ?_⟩
  · have hl := h.mem_loaded id hid
    obtain ⟨s, hs, rfl, hfilter⟩ := h.exists_filter_eq hd (h.loaded_seen id hl)
    refine ⟨_, hfilter, s, hs, Resource.trim_prunes loaded s, ?_⟩
    rw [Resource.children_trim_of_mem hl, Forest.length_trim]
  · obtain ⟨s, -, -, hfilter⟩ := h.exists_filter_eq hd (h.starred_seen id hid)
    exact ⟨_, hfilter⟩
  · obtain ⟨loaded', hmono, h'⟩ := h.press hd key
    rw [h.roots_eq, h'.roots_eq]
    exact Forest.trim_prunes_trim hmono c.roots

/-- What is open of the lake stays loaded when it is closed. -/
theorem roots_after_prunes_movedFolder :
    Forest.Distinct movedFolder.roots ∧
    let b := after {} movedFolder .online [⟨.enter, false⟩, ⟨.down, false⟩, ⟨.enter, false⟩]
    b.tree.expanded.toList = ["lake", "lake.raw"] ∧
      b.roots.Prunes movedFolder.roots ∧ b.roots.Prunes (b.press ⟨.enter, false⟩).value.roots :=
  have hd : Forest.Distinct movedFolder.roots := by decide
  have hprunes := roots_after_prunes hd {} .online
    [⟨.enter, false⟩, ⟨.down, false⟩, ⟨.enter, false⟩]
  ⟨hd, by decide +kernel, hprunes.1.2, hprunes.2.2.2 ⟨.enter, false⟩⟩

end Browser

end CatalogBrowser
