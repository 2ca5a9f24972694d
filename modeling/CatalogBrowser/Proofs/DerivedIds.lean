import CatalogBrowser.Proofs.DerivedPaths
import CatalogBrowser.Proofs.Positions
import Mathlib.Data.List.Infix

/-!
# Ids from names

A forest may come with names only. Completing its paths then gives every
entry the names on the way down to it, and leaves everything else as it was
(`Forest.at?_completePaths`). If no two siblings share a name, no two
entries share an id, no id is empty, which is what no selection is called,
and an entry is found by its id (`Forest.completePaths_ids`).

Names may be empty or contain dots and quotes: ids are unambiguous whatever
the names are, and an empty name stands for the last segment of its path,
which is that name again.
-/

namespace CatalogBrowser

namespace Forest

variable {r : Resource} {rest forest : Forest} {pos : List Nat}

/-- **The entries on the way to a position**, from the root down to the entry
itself. -/
def way (forest : Forest) (pos : List Nat) : List Resource := pos.inits.filterMap forest.at?

@[simp]
theorem way_nil (forest : Forest) : way forest [] = [] := by
  simp [way]

/-- The way into the first entry begins with that entry. -/
theorem way_below (pos : List Nat) :
    way (r :: rest) (0 :: pos) = r :: way r.children pos := by
  cases pos with
  | nil => simp [way]
  | cons j pos =>
    rw [way, way, List.inits_cons, List.inits_cons]
    simp [List.filterMap_map, Function.comp_def, at?_below]

/-- The way past the first entry is that among the others. -/
theorem way_beside (i : Nat) (pos : List Nat) :
    way (r :: rest) ((i + 1) :: pos) = way rest (i :: pos) := by
  rw [way, way, List.inits_cons, List.inits_cons]
  simp [List.filterMap_map]

/-- **Completing missing paths gives every entry the names on the way to it**, and
changes neither kinds nor names, nor what is where. -/
theorem at?_completePaths (h : ∀ r ∈ Forest.nodes forest, r.path = []) (parent : List String)
    (pos : List Nat) :
    ((Forest.completePaths parent forest).at? pos).map (fun r => (r.kind, r.name, r.path))
      = (forest.at? pos).map fun r =>
          (r.kind, r.name, parent ++ (forest.way pos).map (·.name)) := by
  induction forest using Forest.induction generalizing parent pos with
  | nil => simp [Forest.completePaths]
  | cons r rest ihc ihr =>
    obtain ⟨hr, hc, hrest⟩ := forall_mem_nodes_cons.1 h
    rw [Forest.completePaths, completePaths_resource parent hr]
    cases pos with
    | nil => simp
    | cons k q =>
      cases k with
      | zero =>
        cases q with
        | nil => simp [way_below]
        | cons j q =>
          have hbelow := ihc hc (parent ++ [r.name]) (j :: q)
          simpa [at?_below, way_below] using hbelow
      | succ i =>
        rw [at?_beside, at?_beside, way_beside]
        exact ihr hrest parent (i :: q)

/-- **Names that no two siblings share make ids that no two entries share.** Once
missing paths are completed, every entry has the names on the way to it for
its path, and its kind and name are what they were; ids are distinct, none
of them is empty, and an entry is what a look-up of its id finds. -/
theorem completePaths_ids (h : ∀ r ∈ Forest.nodes forest, r.path = [])
    (hs : SiblingsDistinct forest) :
    let completed := Forest.completePaths [] forest
    (∀ pos, (completed.at? pos).map (fun r => (r.kind, r.name, r.path))
      = (forest.at? pos).map fun r => (r.kind, r.name, (forest.way pos).map (·.name))) ∧
    ((Forest.nodes completed).map Resource.id).Nodup ∧
    ∀ r ∈ Forest.nodes completed, r.id ≠ "" ∧ Forest.lookup r.id completed = some r := by
  intro completed
  obtain ⟨hderived, hsiblings⟩ : Derived [] completed ∧ SiblingsDistinct completed :=
    derived_completePaths h hs
  have hd : Distinct completed := hderived.distinct hsiblings
  refine ⟨at?_completePaths h [], distinct_iff_nodup_ids.1 hd, fun r hr => ⟨?_, hd.lookup_id hr⟩⟩
  obtain ⟨name, -, tail, hpath⟩ := hderived.exists_of_mem_paths (path_mem_paths hr)
  rw [Resource.id, Ne, Path.id_eq_empty_iff, hpath]
  exact List.cons_ne_nil name tail

/-- **Names that look like paths**: one with a dot in it beside two of which it could
be the path, one with a quote, and two that are empty. -/
def dottedNames : Forest :=
  [⟨.space, "raw.old", [], [⟨.file, "", [], []⟩, ⟨.file, "a\"b", [], []⟩]⟩,
    ⟨.space, "raw", [], [⟨.folder, "old", [], [⟨.file, "", [], []⟩]⟩]⟩]

/-- All of them get ids of their own, under which they are found. -/
theorem completePaths_ids_dottedNames :
    let completed := Forest.completePaths [] dottedNames
    let file : Resource := ⟨.file, "", ["raw", "old", ""], []⟩
    (∀ r ∈ Forest.nodes dottedNames, r.path = []) ∧ SiblingsDistinct dottedNames ∧
      file ∈ Forest.nodes completed ∧
      (Forest.nodes completed).map Resource.id
        = ["\"raw.old\"", "\"raw.old\".\"\"", "\"raw.old\".\"a\"\"b\"", "raw", "raw.old",
          "raw.old.\"\""] ∧
      ((Forest.nodes completed).map Resource.id).Nodup ∧
      file.id ≠ "" ∧ Forest.lookup file.id completed = some file := by
  intro completed file
  have h : ∀ r ∈ Forest.nodes dottedNames, r.path = [] := by decide
  have hs : SiblingsDistinct dottedNames := by decide
  have hfile : file ∈ Forest.nodes completed := mem_nodes_iff_exists_at?.2 ⟨[1, 0, 0], rfl⟩
  obtain ⟨-, hids, hfound⟩ := completePaths_ids h hs
  exact ⟨h, hs, hfile, by decide +kernel, hids, hfound file hfile⟩

end Forest

end CatalogBrowser
