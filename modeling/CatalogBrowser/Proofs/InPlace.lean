import CatalogBrowser.Catalog.Basic
import CatalogBrowser.Proofs.Loading

/-!
# Entries that stand where their paths say

A catalog seeks an entry one level down for each segment of the entry's
path. A document may give an entry any path, though, and leave out the
levels above it or hang it somewhere else. This module says which entries
are found all the same.

An entry is **in place** if the path of every entry on the way down to it,
its own included, is the path above and one segment more
(`Forest.InPlace`). Among distinct paths these are the entries whose
children can be loaded (`Catalog.loadChildren_eq_ok_iff`). All others are
listed, and can be looked up by their ids, but the catalog does not find
them: one whose text leaves out a level is enough
(`Catalog.not_forall_loadChildren_eq_ok`).
-/

namespace CatalogBrowser

namespace Forest

/-- **An entry stands where its path says**, on or below a level under a path. -/
inductive InPlace (r : Resource) : List String → Forest → Prop where
  /-- It stands on the level. -/
  | here {above : List String} {level : Forest} {segment : String} (hr : r ∈ level)
      (hpath : r.path = above ++ [segment]) : InPlace r above level
  /-- It stands below an entry of the level that has its own path in place. -/
  | deeper {above : List String} {level : Forest} {t : Resource} {segment : String}
      (ht : t ∈ level) (hpath : t.path = above ++ [segment])
      (h : InPlace r t.path t.children) : InPlace r above level

/-- The path of an entry in place goes on from the path above. -/
theorem InPlace.exists_path {r : Resource} {above : List String} {level : Forest}
    (h : InPlace r above level) : ∃ segment rest, r.path = above ++ segment :: rest := by
  induction h with
  | @here above level segment _ hpath => exact ⟨segment, [], hpath⟩
  | @deeper above level t segment _ hpath _ ih =>
    obtain ⟨next, rest, hrest⟩ := ih
    refine ⟨segment, next :: rest, ?_⟩
    rw [hrest, hpath, List.append_assoc, List.singleton_append]

/-- More siblings do not put it out of place. -/
theorem InPlace.cons {r t : Resource} {above : List String} {level : Forest}
    (h : InPlace r above level) : InPlace r above (t :: level) := by
  cases h with
  | here hr hpath => exact .here (List.mem_cons_of_mem _ hr) hpath
  | deeper hs hpath h => exact .deeper (List.mem_cons_of_mem _ hs) hpath h

/-! ## In a distinct forest -/

/-- What is below a root has distinct paths if the whole forest has, so the search may go
on there. -/
theorem Distinct.children {forest : Forest} (h : Distinct forest) {r : Resource}
    (hr : r ∈ forest) : Distinct r.children := by
  induction forest with
  | nil => exact absurd hr List.not_mem_nil
  | cons s rest ih =>
    obtain ⟨-, -, hdc, hdr, -⟩ := distinct_cons.1 h
    rcases List.mem_cons.1 hr with rfl | hr
    · exact hdc
    · exact ih hdr hr

/-- On a level, an entry is found by its path. -/
theorem Distinct.find?_path {level : Forest} (h : Distinct level) {r : Resource}
    (hr : r ∈ level) : level.find? (·.path = r.path) = some r := by
  obtain ⟨s, hs⟩ : ∃ s, level.find? (·.path = r.path) = some s := by
    rw [← Option.isSome_iff_exists, List.find?_isSome]
    exact ⟨r, hr, decide_eq_true rfl⟩
  have hpath : s.path = r.path := by simpa using List.find?_some hs
  rw [hs, h.eq_of_path (mem_nodes_of_mem (List.mem_of_find?_eq_some hs)) (mem_nodes_of_mem hr)
    hpath]

/-- **The search of the catalog finds an entry that is in place.** -/
theorem InPlace.descend?_eq {r : Resource} {above : List String} {level : Forest}
    (h : InPlace r above level) (hd : Distinct level) {rest : List String}
    (hrest : r.path = above ++ rest) : Catalog.descend? above rest level = some r := by
  induction h generalizing rest with
  | @here above level segment hr hpath =>
    obtain rfl : rest = [segment] := by
      rw [hpath, List.append_cancel_left_eq] at hrest
      exact hrest.symm
    rw [Catalog.descend?, ← hpath, hd.find?_path hr]
    rfl
  | @deeper above level t segment ht hpath h ih =>
    obtain ⟨next, tail, htail⟩ := h.exists_path
    obtain rfl : rest = segment :: next :: tail := by
      rw [htail, hpath, List.append_assoc, List.append_cancel_left_eq] at hrest
      exact hrest.symm
    rw [Catalog.descend?, ← hpath, hd.find?_path ht]
    exact ih (hd.children ht) htail

/-- **It finds no other.** -/
theorem inPlace_of_descend? {r : Resource} {above rest : List String} {level : Forest}
    (h : Catalog.descend? above rest level = some r) : InPlace r above level := by
  induction rest generalizing above level with
  | nil => cases h
  | cons segment rest ih =>
    rw [Catalog.descend?] at h
    split at h
    · cases h
    · next t ht =>
      have hmem : t ∈ level := List.mem_of_find?_eq_some ht
      have hpath : t.path = above ++ [segment] := by simpa using List.find?_some ht
      split at h
      · obtain rfl : t = r := Option.some.inj h
        exact .here hmem hpath
      · refine .deeper hmem hpath ?_
        rw [hpath]
        exact ih h

end Forest

/-! ## Loading by path -/

namespace Catalog

deriving instance DecidableEq for Catalog

/-- The children of an entry that is in place can be loaded. -/
theorem loadChildren_of_inPlace {c : Catalog} (hd : Forest.Distinct c.roots) {r : Resource}
    (h : Forest.InPlace r [] c.roots) :
    c.loadChildren r.path = .ok (r.children.map Resource.shallow) := by
  rw [loadChildren, find?, h.descend?_eq hd (List.nil_append _).symm]

/-- The catalog does not find the path of an entry that is out of place. -/
theorem loadChildren_of_not_inPlace {c : Catalog} (hd : Forest.Distinct c.roots) {r : Resource}
    (hr : r ∈ Forest.nodes c.roots) (h : ¬ Forest.InPlace r [] c.roots) :
    c.loadChildren r.path = .error (.notFound r.id) := by
  cases hfind : c.find? r.path with
  | none =>
    rw [loadChildren, hfind]
    rfl
  | some s =>
    -- Whatever is found has the path, and no other entry has it.
    obtain ⟨hs, hpath⟩ := mem_of_descend? hfind
    obtain rfl : s = r := hd.eq_of_path hs hr hpath
    exact absurd (Forest.inPlace_of_descend? hfind) h

/-- **The children of an entry can be loaded by its path just if the entry is in
place.** Of any other entry the catalog says that it does not have it. -/
theorem loadChildren_eq_ok_iff {c : Catalog} (hd : Forest.Distinct c.roots) {r : Resource}
    (hr : r ∈ Forest.nodes c.roots) :
    (c.loadChildren r.path = .ok (r.children.map Resource.shallow) ↔
      Forest.InPlace r [] c.roots) ∧
    (¬ Forest.InPlace r [] c.roots → c.loadChildren r.path = .error (.notFound r.id)) := by
  refine ⟨⟨fun hok => ?_, loadChildren_of_inPlace hd⟩, loadChildren_of_not_inPlace hd hr⟩
  by_contra h
  exact nomatch hok.symm.trans (loadChildren_of_not_inPlace hd hr h)

/-- A text that lists a folder, and not the space the folder is in. -/
def reportsText : String :=
  "[\x7b\"type\":\"FOLDER\",\"name\":\"reports\",\"fullPath\":[\"Sales\",\"reports\"],"
    ++ "\"children\":[\x7b\"type\":\"FILE\",\"name\":\"orders\"\x7d]\x7d]"

/-- The folder the text lists. -/
def reportsFolder : Resource :=
  ⟨.folder, "reports", ["Sales", "reports"],
    [⟨.file, "orders", ["Sales", "reports", "orders"], []⟩]⟩

/-- The catalog of the text. -/
def reportsCatalog : Catalog := ⟨"reports.json", [reportsFolder]⟩

theorem mem_nodes_reportsCatalog : reportsFolder ∈ Forest.nodes reportsCatalog.roots :=
  Forest.mem_nodes_of_mem (List.mem_singleton.2 rfl)

theorem ofText_reportsText : ofText "reports.json" reportsText = .ok reportsCatalog := by
  decide +kernel

/-- The folder is out of place: it is a root, and its path has two segments. -/
theorem not_inPlace_reportsFolder : ¬ Forest.InPlace reportsFolder [] reportsCatalog.roots := by
  rintro (⟨-, hpath⟩ | ⟨ht, hpath, -⟩)
  · exact absurd (congrArg List.length hpath) (show ¬ 2 = 1 by decide)
  · obtain rfl := List.mem_singleton.1 ht
    exact absurd (congrArg List.length hpath) (show ¬ 2 = 1 by decide)

/-- The catalog lists the folder, and does not find it. -/
theorem loadChildren_eq_ok_iff_reports :
    Forest.Distinct reportsCatalog.roots ∧ reportsFolder ∈ Forest.nodes reportsCatalog.roots ∧
      ¬ Forest.InPlace reportsFolder [] reportsCatalog.roots ∧
      reportsCatalog.loadChildren reportsFolder.path = .error (.notFound "Sales.reports") :=
  have hd : Forest.Distinct reportsCatalog.roots := by decide
  ⟨hd, mem_nodes_reportsCatalog, not_inPlace_reportsFolder,
    (loadChildren_eq_ok_iff hd mem_nodes_reportsCatalog).2 not_inPlace_reportsFolder⟩

/-- **Not every entry can be loaded by its path**, though no two entries share
one. -/
theorem not_forall_loadChildren_eq_ok :
    ¬ ∀ (path text : String) (c : Catalog), ofText path text = .ok c →
      Forest.Distinct c.roots → ∀ r ∈ Forest.nodes c.roots,
        c.loadChildren r.path = .ok (r.children.map Resource.shallow) := by
  intro h
  have hok := h _ _ _ ofText_reportsText (by decide) _ mem_nodes_reportsCatalog
  exact nomatch hok

end Catalog

end CatalogBrowser
