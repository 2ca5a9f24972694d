import CatalogBrowser.Proofs.Positions

/-!
# Completing paths and names

An entry that comes without a path gets one from its parent, and an entry that
comes without a name takes it from its path, in this order. Explicit and
missing ones may mix at every level, and the parent's path that counts is the
completed one, so what completing does to an entry is said relative to the
entry above it (`Resource.CompletedUnder`), position by position
(`Forest.rel_completePaths`).

Afterwards every entry has a path, and it has a name unless its path ends in an
empty segment as well. A forest whose entries are all of that kind is called
**completed** here. There is nothing to complete in it, under whatever path it
lies (`Forest.Completed.completePaths_eq`), so completing a second time changes
nothing even if the entry has moved (`Resource.completePaths_stable`).
-/

namespace CatalogBrowser

/-- **What completing makes of an entry** that lies below the given path, apart from
what it makes of the entries below. -/
structure Resource.CompletedUnder (parent : List String) (r r' : Resource) : Prop where
  /-- It is what it was. -/
  kind_eq : r'.kind = r.kind
  /-- It has as many children as before. -/
  length_children : r'.children.length = r.children.length
  /-- A path that was given is kept. -/
  path_eq_of_ne_nil : r.path ≠ [] → r'.path = r.path
  /-- A missing one is the path above and the name that was given. -/
  path_eq_of_eq_nil : r.path = [] → r'.path = parent ++ [r.name]
  /-- There is a path now. -/
  path_ne_nil : r'.path ≠ []
  /-- A name that was given is kept. -/
  name_eq_of_ne_empty : r.name ≠ "" → r'.name = r.name
  /-- A missing one is the last segment of the path there is now. -/
  getLast?_path_of_eq_empty : r.name = "" → r'.path.getLast? = some r'.name

namespace Forest

variable {r : Resource} {rest : Forest}

/-- **The path above a position**: that of the entry above, or the one the forest lies
below. -/
def pathAbove (parent : List String) (forest : Forest) (pos : List Nat) : List String :=
  if pos.dropLast = [] then parent else (forest.at? pos.dropLast).elim [] (·.path)

/-! ## Along the first entry -/

/-- What is completed of the first root depends on what is above it and not on its
siblings, and the rest does not depend on it. -/
theorem completePaths_cons (parent : List String) (r : Resource) (rest : Forest) :
    Forest.completePaths parent (r :: rest)
      = ⟨r.kind, completedName r.name (completedPath parent r.name r.path),
          completedPath parent r.name r.path,
          Forest.completePaths (completedPath parent r.name r.path) r.children⟩
        :: Forest.completePaths parent rest := by
  cases r
  rfl

/-- Above the children of the first entry is that entry. -/
theorem pathAbove_below (parent : List String) (j : Nat) (q : List Nat) :
    pathAbove parent (r :: rest) (0 :: j :: q) = pathAbove r.path r.children (j :: q) := by
  cases q with
  | nil => rfl
  | cons k q =>
    have hdrop : (j :: k :: q).dropLast ≠ [] := List.cons_ne_nil j _
    rw [pathAbove, pathAbove, List.dropLast_cons_cons, if_neg (List.cons_ne_nil 0 _),
      if_neg hdrop, at?_below hdrop]

/-- Above the others is what is above them without the first entry. -/
theorem pathAbove_beside (parent : List String) (i : Nat) (q : List Nat) :
    pathAbove parent (r :: rest) ((i + 1) :: q) = pathAbove parent rest (i :: q) := by
  cases q with
  | nil => rfl
  | cons j q =>
    rw [pathAbove, pathAbove, List.dropLast_cons_cons, List.dropLast_cons_cons,
      if_neg (List.cons_ne_nil _ _), if_neg (List.cons_ne_nil _ _), at?_beside]

/-- No root is lost or added. -/
theorem length_completePaths (parent : List String) (forest : Forest) :
    (Forest.completePaths parent forest).length = forest.length := by
  induction forest with
  | nil => rfl
  | cons r rest ih => rw [completePaths_cons, List.length_cons, List.length_cons, ih]

/-- **No entry is lost or added anywhere**, so a catalog has as many entries as its text
lists. -/
theorem count_completePaths (parent : List String) (forest : Forest) :
    Forest.count (Forest.completePaths parent forest) = Forest.count forest := by
  induction forest using Forest.induction generalizing parent with
  | nil => rfl
  | cons r rest ihc ihr => rw [completePaths_cons, count_cons, count_cons, ihc, ihr]

/-! ## Completing what is complete -/

/-- **Every entry has a path, and a name that completing leaves as it is.** -/
def Completed (forest : Forest) : Prop :=
  ∀ r ∈ Forest.nodes forest, r.path ≠ [] ∧ completedName r.name r.path = r.name

/-- Whether a forest is completed is settled root by root, and below each of them. -/
theorem completed_cons {r : Resource} {rest : Forest} :
    Completed (r :: rest) ↔
      (r.path ≠ [] ∧ completedName r.name r.path = r.name) ∧
        Completed r.children ∧ Completed rest :=
  forall_mem_nodes_cons

/-- A path that is missing is made of the name, and so it is never empty, even where
everything above it is. -/
theorem completedPath_ne_nil (parent : List String) (name : String) (path : List String) :
    completedPath parent name path ≠ [] := by
  unfold completedPath
  split
  · exact List.append_ne_nil_of_right_ne_nil parent (List.cons_ne_nil name [])
  · next h => exact fun hnil => h (List.isEmpty_iff.2 hnil)

/-- A name that was completed stays what it is. -/
theorem completedName_completedName (name : String) (path : List String) :
    completedName (completedName name path) path = completedName name path := by
  by_cases h : name.isEmpty
  · simp [completedName, h]
  · simp [completedName, h]

/-- **Completing completes every entry.** -/
theorem completed_completePaths (parent : List String) (forest : Forest) :
    Completed (Forest.completePaths parent forest) := by
  induction forest using Forest.induction generalizing parent with
  | nil => exact fun _ hr => absurd hr List.not_mem_nil
  | cons r rest ihc ihr =>
    rw [completePaths_cons, completed_cons]
    exact ⟨⟨completedPath_ne_nil parent r.name r.path, completedName_completedName _ _⟩, ihc _,
      ihr parent⟩

/-- **There is nothing to complete where every entry is completed.** -/
theorem Completed.completePaths_eq {forest : Forest} (h : Completed forest)
    (parent : List String) : Forest.completePaths parent forest = forest := by
  induction forest using Forest.induction generalizing parent with
  | nil => rfl
  | cons r rest ihc ihr =>
    obtain ⟨⟨hpath, hname⟩, hc, hrest⟩ := completed_cons.1 h
    have hpath' : completedPath parent r.name r.path = r.path :=
      if_neg fun hnil => hpath (List.isEmpty_iff.1 hnil)
    rw [completePaths_cons, hpath', hname, ihc hc, ihr hrest]
    cases r
    rfl

/-! ## Position by position -/

/-- **What completing makes of the first entry.** -/
theorem completedUnder_first (parent : List String) (r : Resource) :
    r.CompletedUnder parent
      ⟨r.kind, completedName r.name (completedPath parent r.name r.path),
        completedPath parent r.name r.path,
        Forest.completePaths (completedPath parent r.name r.path) r.children⟩ where
  kind_eq := rfl
  length_children := length_completePaths _ r.children
  path_eq_of_ne_nil h := if_neg fun hnil => h (List.isEmpty_iff.1 hnil)
  path_eq_of_eq_nil h := if_pos (List.isEmpty_iff.2 h)
  path_ne_nil := completedPath_ne_nil parent r.name r.path
  name_eq_of_ne_empty h := if_neg fun hempty => h (String.isEmpty_iff.1 hempty)
  getLast?_path_of_eq_empty h := by
    have hpath := completedPath_ne_nil parent r.name r.path
    show (completedPath parent r.name r.path).getLast?
      = some (completedName r.name (completedPath parent r.name r.path))
    rw [completedName, if_pos (String.isEmpty_iff.2 h), List.getLastD_eq_getLast?,
      List.getLast?_eq_some_getLast hpath, Option.getD_some]

/-- **Completing leaves every entry in its place**, and completes it under the
completed path above. -/
theorem rel_completePaths (parent : List String) (forest : Forest) (pos : List Nat) :
    Option.Rel (Resource.CompletedUnder (pathAbove parent (Forest.completePaths parent forest) pos))
      (forest.at? pos) ((Forest.completePaths parent forest).at? pos) := by
  induction forest using Forest.induction generalizing parent pos with
  | nil =>
    rw [at?_no_entries, Forest.completePaths, at?_no_entries]
    exact .none
  | cons r rest ihc ihr =>
    rw [completePaths_cons]
    match pos with
    | [] => exact .none
    | [0] => exact .some (completedUnder_first parent r)
    | 0 :: j :: q =>
      rw [at?_below (List.cons_ne_nil j q), at?_below (List.cons_ne_nil j q), pathAbove_below]
      exact ihc _ (j :: q)
    | (i + 1) :: q =>
      rw [at?_beside, at?_beside, pathAbove_beside]
      exact ihr parent (i :: q)

end Forest

/-- **Completing is stable, and changes no more than it has to.** A resource that was
completed under one path is completed under any other. It has as many entries as
before, each in its place and of its kind, with the path and the name that were
given, or else with those that come from above. -/
theorem Resource.completePaths_stable (r : Resource) (parent other : List String) :
    let completed := r.completePaths parent
    completed.completePaths other = completed ∧
    completed.count = r.count ∧
    ∀ pos, Option.Rel
      (Resource.CompletedUnder (Forest.pathAbove parent [completed] pos))
      (Forest.at? [r] pos) (Forest.at? [completed] pos) := by
  intro completed
  have hcompleted : Forest.completePaths parent [r] = [completed] := rfl
  refine ⟨?_, ?_, fun pos => hcompleted ▸ Forest.rel_completePaths parent [r] pos⟩
  · have htwice : Forest.completePaths other [completed] = [completed] :=
      (hcompleted ▸ Forest.completed_completePaths parent [r]).completePaths_eq other
    exact List.singleton_inj.1 htwice
  · exact Forest.count_completePaths parent [r]

end CatalogBrowser
