import CatalogBrowser.Proofs.Pruning
import CatalogBrowser.Tree.Rows

/-!
# Rows of a part and of the whole

The rows of a tree are computed from the forest that is loaded. Here they are
compared with the rows that the whole forest would give.

What a row says is its **face**: how deep its entry stands, which entry it
is, and what is true of it. The entry in a row also carries the children
loaded below it, and there the two lists of rows differ; their faces do not
(`TreeState.faces_visibleRows_trim`), as long as every entry that is open is
loaded and every entry with a star can be seen. On the tab of all entries
the first suffices, since nothing is shown below an entry that is closed.
The tab of starred entries looks below closed ones too, and there the second
is needed.
-/

namespace CatalogBrowser

/-- **What a row says.** -/
structure RowFace where
  /-- How many entries it lies below. -/
  depth : Nat
  /-- The id of its entry. -/
  id : String
  /-- The name of its entry. -/
  name : String
  /-- What its entry is. -/
  kind : Kind
  /-- Whether the entry can be opened. -/
  expandable : Bool
  /-- Whether the entry can be opened and is open. -/
  expanded : Bool
  /-- Whether the entry carries a star. -/
  starred : Bool
  /-- Whether the entry waits for its children. -/
  loading : Bool
deriving DecidableEq, Repr

/-- What a row says, whatever is loaded below its entry. -/
def Row.face (row : Row) : RowFace where
  depth := row.depth
  id := row.id
  name := row.resource.name
  kind := row.resource.kind
  expandable := row.expandable
  expanded := row.expanded
  starred := row.starred
  loading := row.loading

variable {s : TreeState} {options : ViewOptions}

/-! ## Equations -/

/-- An entry is shown open if it can be opened and its id is among the open ones. -/
theorem TreeState.expanded_row_iff {depth : Nat} {r : Resource} :
    (s.row options depth r).expanded = true ↔
      (s.row options depth r).expandable = true ∧ r.id ∈ s.expanded := by
  simp [TreeState.row, TreeState.isExpanded]

/-- Two states that agree on whether an entry is open show it the same way. -/
theorem TreeState.expanded_row_congr {s' : TreeState} {depth : Nat} {r : Resource}
    (h : (s.row options depth r).expandable = true → (r.id ∈ s.expanded ↔ r.id ∈ s'.expanded)) :
    (s.row options depth r).expanded = (s'.row options depth r).expanded := by
  rw [Bool.eq_iff_iff, TreeState.expanded_row_iff, TreeState.expanded_row_iff]
  exact and_congr_right h

/-- The rows of an entry begin with its own. An entry that is hidden takes everything below
it along. -/
theorem Resource.rows_eq (s : TreeState) (options : ViewOptions) (depth : Nat) (r : Resource) :
    r.rows s options depth
      = if options.hidden.hides r then []
        else s.row options depth r ::
          if (s.row options depth r).expanded then Forest.rows s options (depth + 1) r.children
          else [] := by
  cases r
  rfl

namespace Forest

@[simp]
theorem rows_nil (s : TreeState) (options : ViewOptions) (depth : Nat) :
    Forest.rows s options depth [] = [] := rfl

@[simp]
theorem rows_cons (s : TreeState) (options : ViewOptions) (depth : Nat) (r : Resource)
    (rest : Forest) :
    Forest.rows s options depth (r :: rest)
      = r.rows s options depth ++ Forest.rows s options depth rest := rfl

/-- The rows of an entry are those of a forest without any other. -/
theorem rows_singleton (s : TreeState) (options : ViewOptions) (depth : Nat) (r : Resource) :
    Forest.rows s options depth [r] = r.rows s options depth := by
  rw [rows_cons, rows_nil, List.append_nil]

/-- Entries with stars are listed in pre-order. A hidden entry takes the ones below it
along here as well. -/
theorem starredNodes_cons (s : TreeState) (hidden : Hidden) (r : Resource) (rest : Forest) :
    Forest.starredNodes s hidden (r :: rest)
      = (if hidden.hides r then []
          else if s.isStarred r.id then r :: Forest.starredNodes s hidden r.children
          else Forest.starredNodes s hidden r.children)
        ++ Forest.starredNodes s hidden rest := by
  cases r
  rfl

/-! ## Every row shows an entry -/

/-- A row is the row of an entry of the forest. -/
theorem exists_of_mem_rows {depth : Nat} {forest : Forest} {row : Row}
    (h : row ∈ Forest.rows s options depth forest) :
    ∃ d, ∃ r ∈ Forest.nodes forest, row = s.row options d r := by
  induction forest using Forest.induction generalizing depth with
  | nil => exact absurd h List.not_mem_nil
  | cons r rest ihc ihr =>
    rw [rows_cons, List.mem_append, Resource.rows_eq] at h
    rcases h with h | h
    · split at h
      · exact absurd h List.not_mem_nil
      · rcases List.mem_cons.1 h with rfl | h
        · exact ⟨depth, r, by simp, rfl⟩
        · split at h
          · obtain ⟨d, t, ht, hrow⟩ := ihc h
            exact ⟨d, t, by simp [ht], hrow⟩
          · exact absurd h List.not_mem_nil
    · obtain ⟨d, t, ht, hrow⟩ := ihr h
      exact ⟨d, t, by simp [ht], hrow⟩

/-- A row tells of its entry whether it can be opened, whatever the depth is. -/
theorem expandable_of_mem_rows {depth : Nat} {forest : Forest} {row : Row}
    (h : row ∈ Forest.rows s options depth forest) :
    row.expandable = row.resource.expandable options.datasetsAreLeaves := by
  obtain ⟨d, r, -, rfl⟩ := exists_of_mem_rows h
  rfl

/-- An id may be among the open ones though its entry cannot be opened. The row of such an
entry is not open. -/
theorem expanded_iff_of_mem_rows {depth : Nat} {forest : Forest} {row : Row}
    (h : row ∈ Forest.rows s options depth forest) :
    row.expanded = true ↔ row.expandable = true ∧ row.id ∈ s.expanded := by
  obtain ⟨d, r, -, rfl⟩ := exists_of_mem_rows h
  exact TreeState.expanded_row_iff

/-- What is listed with a star is in the forest, and its id has the star. -/
theorem mem_nodes_of_mem_starredNodes {hidden : Hidden} {forest : Forest} {r : Resource}
    (h : r ∈ Forest.starredNodes s hidden forest) :
    r ∈ Forest.nodes forest ∧ r.id ∈ s.starred := by
  induction forest using Forest.induction with
  | nil => exact absurd h List.not_mem_nil
  | cons t rest ihc ihr =>
    rw [starredNodes_cons, List.mem_append] at h
    rw [mem_nodes_cons]
    rcases h with h | h
    · split at h
      · exact absurd h List.not_mem_nil
      · split at h
        · next hstar =>
          rcases List.mem_cons.1 h with rfl | h
          · exact ⟨Or.inl rfl, IdSet.contains_iff.1 hstar⟩
          · exact ⟨Or.inr (Or.inl (ihc h).1), (ihc h).2⟩
        · exact ⟨Or.inr (Or.inl (ihc h).1), (ihc h).2⟩
    · exact ⟨Or.inr (Or.inr (ihr h).1), (ihr h).2⟩

end Forest

/-- The rows listed below a starred entry show what is in the forest. -/
theorem TreeState.exists_of_mem_listStarred {forest starred : Forest} {rows : List Row}
    (hstarred : ∀ r ∈ starred, r ∈ Forest.nodes forest)
    (hrows : ∀ row ∈ rows, ∃ d, ∃ r ∈ Forest.nodes forest, row = s.row options d r) :
    ∀ row ∈ starred.foldl (s.listStarred options) rows,
      ∃ d, ∃ r ∈ Forest.nodes forest, row = s.row options d r := by
  induction starred generalizing rows with
  | nil => exact hrows
  | cons r rest ih =>
    refine ih (fun t ht => hstarred t (List.mem_cons_of_mem _ ht)) fun row hrow => ?_
    rw [TreeState.listStarred] at hrow
    split at hrow
    · exact hrows row hrow
    · rcases List.mem_append.1 hrow with hrow | hrow
      · exact hrows row hrow
      · have hlist : row ∈ Forest.rows s options 0 [r] := by
          rwa [Forest.rows_singleton]
        obtain ⟨d, t, ht, heq⟩ := Forest.exists_of_mem_rows hlist
        have hr := hstarred r List.mem_cons_self
        rcases Forest.mem_nodes_cons.1 ht with rfl | ht | ht
        · exact ⟨d, t, hr, heq⟩
        · exact ⟨d, t, Forest.mem_nodes_of_mem_children hr ht, heq⟩
        · exact absurd ht List.not_mem_nil

/-- **Every row of the tree is the row of an entry that is loaded.** -/
theorem TreeState.exists_of_mem_visibleRows {forest : Forest} {row : Row}
    (h : row ∈ s.visibleRows options forest) :
    ∃ d, ∃ r ∈ Forest.nodes forest, row = s.row options d r := by
  unfold TreeState.visibleRows at h
  split at h
  · exact Forest.exists_of_mem_rows h
  · exact TreeState.exists_of_mem_listStarred
      (fun r hr => (Forest.mem_nodes_of_mem_starredNodes hr).1)
      (fun _ hrow => absurd hrow List.not_mem_nil) row h

/-- Rows can be opened if their entries can. -/
theorem TreeState.expandable_of_mem_visibleRows {forest : Forest} {row : Row}
    (h : row ∈ s.visibleRows options forest) :
    row.expandable = row.resource.expandable options.datasetsAreLeaves := by
  obtain ⟨d, r, -, rfl⟩ := exists_of_mem_visibleRows h
  rfl

/-! ## Rows of a trimmed forest -/

variable {loaded : IdSet}

@[simp]
theorem Hidden.hides_trim (hidden : Hidden) (loaded : IdSet) (r : Resource) :
    hidden.hides (r.trim loaded) = hidden.hides r := by
  rw [Hidden.hides, Hidden.hides, Resource.kind_trim]

@[simp]
theorem Resource.expandable_trim (datasetsAreLeaves : Bool) (loaded : IdSet) (r : Resource) :
    (r.trim loaded).expandable datasetsAreLeaves = r.expandable datasetsAreLeaves := by
  rw [Resource.expandable, Resource.expandable, Resource.kind_trim]

/-- **What a row shows does not depend on what has been loaded** below its entry. -/
theorem TreeState.face_row_trim (s : TreeState) (options : ViewOptions) (loaded : IdSet)
    (depth : Nat) (r : Resource) :
    (s.row options depth (r.trim loaded)).face = (s.row options depth r).face := by
  simp [Row.face, Row.id, TreeState.row]

namespace Forest

/-- **Nothing is missing among the rows** if every entry that is open is loaded. -/
theorem faces_rows_trim (hopen : ∀ id ∈ s.expanded, id ∈ loaded) (depth : Nat)
    (forest : Forest) :
    (Forest.rows s options depth (Forest.trim loaded forest)).map Row.face
      = (Forest.rows s options depth forest).map Row.face := by
  induction forest using Forest.induction generalizing depth with
  | nil => rfl
  | cons r rest ihc ihr =>
    have hexpanded : (s.row options depth (r.trim loaded)).expanded
        = (s.row options depth r).expanded :=
      congrArg RowFace.expanded (TreeState.face_row_trim s options loaded depth r)
    rw [trim_cons, rows_cons, rows_cons, List.map_append, List.map_append, ihr,
      Resource.rows_eq, Resource.rows_eq, Hidden.hides_trim, hexpanded]
    refine congrArg (· ++ _) ?_
    split
    · rfl
    · rw [List.map_cons, List.map_cons, TreeState.face_row_trim]
      refine congrArg (_ :: ·) ?_
      split
      · next h =>
        have hid := (TreeState.expanded_row_iff.1 h).2
        rw [Resource.children_trim_of_mem (hopen _ hid), ihc]
      · rfl

/-- **No starred entry is missing** if every one of them can be seen. -/
theorem starredNodes_trim {forest : Forest} (hd : Distinct forest)
    (hstar : ∀ r ∈ Forest.nodes forest, r.id ∈ s.starred →
      r.path ∈ paths (Forest.trim loaded forest)) (hidden : Hidden) :
    Forest.starredNodes s hidden (Forest.trim loaded forest)
      = Forest.trim loaded (Forest.starredNodes s hidden forest) := by
  induction forest using Forest.induction with
  | nil => rfl
  | cons r rest ihc ihr =>
    obtain ⟨-, -, hdc, hdr, -⟩ := distinct_cons.1 hd
    -- A starred entry is seen on its own side of the forest.
    have hrest := ihr hdr fun t ht hts =>
      hd.seen_beside (path_mem_paths ht) (hstar t (by simp [ht]) hts)
    have hseen : ∀ t ∈ Forest.nodes r.children, t.id ∈ s.starred →
        r.id ∈ loaded ∧ t.path ∈ paths (Forest.trim loaded r.children) :=
      fun t ht hts => hd.seen_below (path_mem_paths ht) (hstar t (by simp [ht]) hts)
    have hchildren : Forest.starredNodes s hidden (r.trim loaded).children
        = Forest.trim loaded (Forest.starredNodes s hidden r.children) := by
      by_cases hr : r.id ∈ loaded
      · rw [Resource.children_trim_of_mem hr]
        exact ihc hdc fun t ht hts => (hseen t ht hts).2
      · have hnone : Forest.starredNodes s hidden r.children = [] := by
          refine List.eq_nil_iff_forall_not_mem.2 fun t ht => ?_
          obtain ⟨htn, hts⟩ := mem_nodes_of_mem_starredNodes ht
          exact hr (hseen t htn hts).1
        rw [Resource.children_trim_of_not_mem hr, hnone]
        rfl
    rw [trim_cons, starredNodes_cons, starredNodes_cons, hrest, hchildren, Hidden.hides_trim,
      Resource.id_trim]
    simp only [trim_eq_map, List.map_append]
    refine congrArg (· ++ _) ?_
    split
    · rfl
    · split <;> rfl

end Forest

/-- Listing trimmed entries gives the same faces. -/
theorem TreeState.faces_foldl_listStarred (hopen : ∀ id ∈ s.expanded, id ∈ loaded)
    (starred : Forest) {rows rows' : List Row} (h : rows.map Row.face = rows'.map Row.face) :
    ((Forest.trim loaded starred).foldl (s.listStarred options) rows).map Row.face
      = (starred.foldl (s.listStarred options) rows').map Row.face := by
  induction starred generalizing rows rows' with
  | nil => exact h
  | cons r rest ih =>
    refine ih ?_
    -- Whether an entry is listed already can be read off the faces.
    have hany : ∀ rows : List Row,
        rows.any (·.id = r.id) = (rows.map Row.face).any (·.id = r.id) := by
      intro rows
      rw [List.any_map]
      rfl
    have hrows : ((r.trim loaded).rows s options 0).map Row.face
        = (r.rows s options 0).map Row.face := by
      rw [← Forest.rows_singleton, ← Forest.rows_singleton]
      exact Forest.faces_rows_trim hopen 0 [r]
    rw [TreeState.listStarred, TreeState.listStarred, Resource.id_trim, hany rows, hany rows', h]
    split
    · exact h
    · rw [List.map_append, List.map_append, h, hrows]

/-- **The rows of the part have the faces of the rows of the whole**, on either
tab, if every entry that is open is loaded and every starred one is seen. -/
theorem TreeState.faces_visibleRows_trim {forest : Forest} (hd : Forest.Distinct forest)
    (hopen : ∀ id ∈ s.expanded, id ∈ loaded)
    (hstar : ∀ r ∈ Forest.nodes forest, r.id ∈ s.starred →
      r.path ∈ Forest.paths (Forest.trim loaded forest)) :
    (s.visibleRows options (Forest.trim loaded forest)).map Row.face
      = (s.visibleRows options forest).map Row.face := by
  unfold TreeState.visibleRows
  split
  · exact Forest.faces_rows_trim hopen 0 forest
  · rw [Forest.starredNodes_trim hd hstar]
    exact TreeState.faces_foldl_listStarred hopen _ rfl

end CatalogBrowser
