import CatalogBrowser.Proofs.Positions
import CatalogBrowser.Proofs.StarredRows

/-!
# The tab of all entries

On this tab an entry has a row if nothing on the way down to it stands in its
way: no entry is hidden, itself included, and each entry above it is open
and can be opened (`Forest.Visible`). The rows are then those of the
positions that can be seen, one row for each, in the order of positions, and
each says of its own entry what is true of it (`TreeState.visibleRows_all`).

Entries are told apart by position and not by id, since ids may collide: an
id among the open ones opens every entry that has it.
-/

namespace CatalogBrowser

variable {s : TreeState} {options : ViewOptions} {r : Resource} {rest forest : Forest}
  {pos : List Nat}

/-- **There is an entry to be seen at a position.** The entries above it are those
at the shorter positions that lead to it. -/
@[mk_iff]
structure Forest.Visible (s : TreeState) (options : ViewOptions) (forest : Forest)
    (pos : List Nat) : Prop where
  /-- There is an entry. -/
  exists_at? : ∃ r, forest.at? pos = some r
  /-- Neither it nor an entry above it is hidden. -/
  hides_eq_false : ∀ q, q <+: pos → ∀ r, forest.at? q = some r → options.hidden.hides r = false
  /-- Every entry above it can be opened and is open. -/
  opens : ∀ q, q <+: pos → ∀ r, forest.at? q = some r → q ≠ pos → s.Opens options r

/-- **A row shows the entry at a position** of a forest that stands below so many
others. -/
structure Row.Shows (s : TreeState) (options : ViewOptions) (above : Nat) (forest : Forest)
    (pos : List Nat) (row : Row) : Prop where
  /-- The entry is the one at the position. -/
  at?_eq : forest.at? pos = some row.resource
  /-- It stands as deep as there are entries above it. -/
  depth_add_one : row.depth + 1 = above + pos.length
  /-- Whether it can be opened depends on its kind. -/
  expandable_eq : row.expandable = row.resource.expandable options.datasetsAreLeaves
  /-- It is open if it can be opened and its id is among the open ones. -/
  expanded_iff : row.expanded = true ↔ row.expandable = true ∧ row.resource.id ∈ s.expanded
  /-- It carries a star if its id is among the starred ones. -/
  starred_iff : row.starred = true ↔ row.resource.id ∈ s.starred
  /-- It waits if its id is among those that wait. -/
  loading_iff : row.loading = true ↔ row.resource.id ∈ s.loading

mutual

/-- The positions, counted from an entry, of the rows of it and of what is visible
below it. -/
def Resource.rowPositions (s : TreeState) (options : ViewOptions) : Resource → List (List Nat)
  | ⟨kind, name, path, children⟩ =>
    if options.hidden.hides ⟨kind, name, path, children⟩ then []
    else
      [] :: if s.Opens options ⟨kind, name, path, children⟩ then
        Forest.rowPositions s options children else []

/-- **The positions of the rows of a forest.** -/
def Forest.rowPositions (s : TreeState) (options : ViewOptions) : Forest → List (List Nat)
  | [] => []
  | r :: rs => (r.rowPositions s options).map (0 :: ·)
      ++ (Forest.rowPositions s options rs).map (List.modifyHead (· + 1))

end

namespace Forest

/-! ## What can be seen -/

/-- On the way to the first entry and below it, that entry comes first. -/
theorem forall_at?_prefix_below {P : List Nat → Resource → Prop} :
    (∀ q, q <+: 0 :: pos → ∀ t, Forest.at? (r :: rest) q = some t → P q t) ↔
      P [0] r ∧ ∀ q, q <+: pos → ∀ t, Forest.at? r.children q = some t → P (0 :: q) t := by
  constructor
  · intro h
    refine ⟨h [0] (List.prefix_append [0] pos) r rfl, fun q hq t ht => ?_⟩
    exact h (0 :: q) (List.cons_prefix_cons.2 ⟨rfl, hq⟩) t (by rwa [at?_below (ne_nil_of_at? ht)])
  · rintro ⟨hr, hbelow⟩ q hq t ht
    rcases at?_cons_eq_some_iff.1 ht with ⟨rfl, rfl⟩ | ⟨q, rfl, ht'⟩ | ⟨i, q, rfl, -⟩
    · exact hr
    · exact hbelow q (List.cons_prefix_cons.1 hq).2 t ht'
    · simp at hq

/-- On the way past the first entry, that entry does not occur. -/
theorem forall_at?_prefix_beside {i : Nat} {P : List Nat → Resource → Prop} :
    (∀ q, q <+: (i + 1) :: pos → ∀ t, Forest.at? (r :: rest) q = some t → P q t) ↔
      ∀ q, q <+: i :: pos → ∀ t, Forest.at? rest q = some t → P (q.modifyHead (· + 1)) t := by
  constructor
  · intro h q hq t ht
    obtain ⟨j, q, rfl⟩ := List.exists_cons_of_ne_nil (ne_nil_of_at? ht)
    exact h ((j + 1) :: q) (by simpa using hq) t (by rwa [at?_beside])
  · intro h q hq t ht
    rcases at?_cons_eq_some_iff.1 ht with ⟨rfl, -⟩ | ⟨q, rfl, -⟩ | ⟨j, q, rfl, ht'⟩
    · simp at hq
    · simp at hq
    · exact h (j :: q) (by simpa using hq) t ht'

/-- The forest as such has no row. -/
theorem not_visible_nil : ¬ Forest.Visible s options forest [] := by
  rintro ⟨⟨r, hr⟩, -, -⟩
  exact ne_nil_of_at? hr rfl

/-- Nothing is visible where nothing is. -/
theorem not_visible_no_entries : ¬ Forest.Visible s options [] pos := by
  rintro ⟨⟨r, hr⟩, -, -⟩
  simp at hr

/-- The first entry is seen if it is not hidden, and what is below it if it is open,
too. -/
theorem visible_below :
    Forest.Visible s options (r :: rest) (0 :: pos) ↔
      options.hidden.hides r = false ∧
        (pos = [] ∨ (s.Opens options r ∧ Forest.Visible s options r.children pos)) := by
  rw [visible_iff, forall_at?_prefix_below, forall_at?_prefix_below]
  by_cases hpos : pos = []
  · subst hpos
    simp
  · rw [visible_iff, at?_below hpos]
    simp [hpos]
    tauto

/-- The others are seen as they are without the first entry. -/
theorem visible_beside {i : Nat} :
    Forest.Visible s options (r :: rest) ((i + 1) :: pos) ↔
      Forest.Visible s options rest (i :: pos) := by
  have hne : ∀ q : List Nat, q.modifyHead (· + 1) ≠ (i + 1) :: pos ↔ q ≠ i :: pos := by
    intro q
    cases q <;> simp
  rw [visible_iff, forall_at?_prefix_beside, forall_at?_prefix_beside, visible_iff, at?_beside]
  simp only [hne]

/-! ## The positions of the rows -/

/-- The positions that have rows are found as the rows are: a hidden root has none, and
below a root there are some only if it is open. -/
theorem rowPositions_cons (r : Resource) (rest : Forest) :
    Forest.rowPositions s options (r :: rest)
      = (if options.hidden.hides r then []
          else [0] :: if s.Opens options r then
            (Forest.rowPositions s options r.children).map (0 :: ·) else [])
        ++ (Forest.rowPositions s options rest).map (List.modifyHead (· + 1)) := by
  cases r
  rw [Forest.rowPositions, Resource.rowPositions]
  refine congrArg (· ++ _) ?_
  split
  · rfl
  · rw [List.map_cons, apply_ite (List.map _)]
    rfl

/-- **The positions listed are those that can be seen.** -/
theorem mem_rowPositions_iff :
    pos ∈ Forest.rowPositions s options forest ↔ Forest.Visible s options forest pos := by
  induction forest using Forest.induction generalizing pos with
  | nil => exact iff_of_false List.not_mem_nil not_visible_no_entries
  | cons r rest ihc ihr =>
    have hrest : pos ∈ (Forest.rowPositions s options rest).map (List.modifyHead (· + 1)) ↔
        ∃ i q, pos = (i + 1) :: q ∧ Forest.Visible s options rest (i :: q) := by
      rw [List.mem_map]
      constructor
      · rintro ⟨q, hq, rfl⟩
        have hvisible := ihr.1 hq
        cases q with
        | nil => exact absurd hvisible not_visible_nil
        | cons i q => exact ⟨i, q, rfl, hvisible⟩
      · rintro ⟨i, q, rfl, h⟩
        exact ⟨i :: q, ihr.2 h, rfl⟩
    rw [rowPositions_cons, List.mem_append, hrest]
    match pos with
    | [] => simp [not_visible_nil]
    | 0 :: q =>
      rw [visible_below]
      cases hides : options.hidden.hides r with
      | true => simp
      | false => by_cases hopen : s.Opens options r <;> simp [hopen, ihc]
    | (i + 1) :: q =>
      rw [visible_beside]
      cases options.hidden.hides r with
      | true => simp
      | false => by_cases hopen : s.Opens options r <;> simp [hopen]

/-- The positions listed are some of the positions of the forest. -/
theorem rowPositions_sublist (forest : Forest) :
    (Forest.rowPositions s options forest).Sublist (positions forest) := by
  induction forest using Forest.induction with
  | nil => exact List.Sublist.refl []
  | cons r rest ihc ihr =>
    rw [rowPositions_cons, positions_cons]
    refine List.Sublist.append ?_ (ihr.map _)
    split
    · exact List.nil_sublist _
    · refine List.Sublist.cons_cons _ ?_
      split
      · exact ihc.map _
      · exact List.nil_sublist _

/-- **They are listed in order.** -/
theorem pairwise_rowPositions : (Forest.rowPositions s options forest).Pairwise (· < ·) :=
  (pairwise_positions forest).sublist (rowPositions_sublist forest)

end Forest

/-! ## The rows -/

namespace Row.Shows

variable {above : Nat} {row : Row}

/-- The row of a root shows the root. -/
theorem here : Row.Shows s options above (r :: rest) [0] (s.row options above r) where
  at?_eq := rfl
  depth_add_one := rfl
  expandable_eq := rfl
  expanded_iff := TreeState.expanded_row_iff
  starred_iff := IdSet.contains_iff
  loading_iff := IdSet.contains_iff

/-- Seen from above its parent, an entry stands one further down. -/
theorem below (h : Row.Shows s options (above + 1) r.children pos row) :
    Row.Shows s options above (r :: rest) (0 :: pos) row :=
  { h with
    at?_eq := by rw [Forest.at?_below (Forest.ne_nil_of_at? h.at?_eq), h.at?_eq]
    depth_add_one := by
      rw [h.depth_add_one, List.length_cons]
      omega }

/-- A row beside the first root shows what it shows without it. -/
theorem beside (h : Row.Shows s options above rest pos row) :
    Row.Shows s options above (r :: rest) (pos.modifyHead (· + 1)) row := by
  obtain ⟨i, q, rfl⟩ := List.exists_cons_of_ne_nil (Forest.ne_nil_of_at? h.at?_eq)
  exact { h with at?_eq := (Forest.at?_beside i q).trans h.at?_eq }

end Row.Shows

/-- **The rows of a forest show the entries at its row positions**, one after the
other. -/
theorem Forest.forall₂_rows (above : Nat) (forest : Forest) :
    List.Forall₂ (Row.Shows s options above forest) (Forest.rowPositions s options forest)
      (Forest.rows s options above forest) := by
  induction forest using Forest.induction generalizing above with
  | nil => exact List.Forall₂.nil
  | cons r rest ihc ihr =>
    rw [rowPositions_cons, rows_cons, Resource.rows_eq]
    refine List.rel_append ?_ ?_
    · split
      · exact List.Forall₂.nil
      · refine List.Forall₂.cons .here ?_
        by_cases hopen : s.Opens options r
        · rw [if_pos hopen, if_pos (TreeState.expanded_row_iff.2 hopen)]
          exact List.forall₂_map_left_iff.2 ((ihc (above + 1)).imp fun _ _ h => h.below)
        · rw [if_neg hopen, if_neg fun h => hopen (TreeState.expanded_row_iff.1 h)]
          exact List.Forall₂.nil
    · exact List.forall₂_map_left_iff.2 ((ihr above).imp fun _ _ h => h.beside)

/-- **On the tab of all entries there is one row for every entry that can be seen.**
The positions that can be seen, in their order, are the positions of the
rows, and each row says what is true of the entry at its position. -/
theorem TreeState.visibleRows_all {roots : Forest} (htab : options.tab = .all) :
    ∃ positions : List (List Nat),
      positions.Pairwise (· < ·) ∧
      (∀ pos, pos ∈ positions ↔ Forest.Visible s options roots pos) ∧
      List.Forall₂ (Row.Shows s options 0 roots) positions (s.visibleRows options roots) := by
  refine ⟨Forest.rowPositions s options roots, Forest.pairwise_rowPositions,
    fun pos => Forest.mem_rowPositions_iff, ?_⟩
  rw [TreeState.visibleRows, htab]
  exact Forest.forall₂_rows 0 roots

/-- **Two entries with one id**, a space and a folder. A view and a home are in the
space, and each has something below it. -/
def twoSales : Forest :=
  [⟨.space, "Sales", ["Sales"],
      [⟨.virtualDataset, "orders", ["Sales", "orders"],
          [⟨.unknown, "price", ["Sales", "orders", "price"], []⟩]⟩,
        ⟨.home, "alice", ["alice"], [⟨.file, "notes", ["alice", "notes"], []⟩]⟩]⟩,
    ⟨.folder, "Sales", ["Sales"], [⟨.file, "readme", ["Sales", "readme"], []⟩]⟩]

/-- One id opens both of them. The view is a leaf although its id is among the open
ones, and the home takes what is below it along. -/
theorem TreeState.visibleRows_all_twoSales :
    let s := (TreeState.initial.expand "Sales").expand "Sales.orders" |>.expand "alice"
    let options : ViewOptions := { datasetsAreLeaves := true, hidden := { homes := true } }
    let rows := s.visibleRows options twoSales
    options.tab = .all ∧
      rows.map (fun row => (row.depth, row.id))
        = [(0, "Sales"), (1, "Sales.orders"), (0, "Sales"), (1, "Sales.readme")] ∧
      ∃ positions : List (List Nat),
        positions.Pairwise (· < ·) ∧
        (∀ pos, pos ∈ positions ↔ Forest.Visible s options twoSales pos) ∧
        List.Forall₂ (Row.Shows s options 0 twoSales) positions rows := by
  intro s options rows
  exact ⟨rfl, by decide +kernel, TreeState.visibleRows_all rfl⟩

end CatalogBrowser
